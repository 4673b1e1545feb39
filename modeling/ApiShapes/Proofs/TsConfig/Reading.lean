import ApiShapes.Proofs.FileTree.Listing
import ApiShapes.Proofs.Results
import ApiShapes.TsConfig.RootFiles
import Mathlib.Logic.Relation

/-!
# Reading compiler configurations after a file was written

* `TsConfigLayer.Extends tree path target` : the file of compiler options names that file among those it
  extends;
* `TsConfigLayer.loadFrom_eq_ok` : what a layer that is loaded consists of;
* `FileTree.Writes.loadFrom_eq_ok` : a layer is loaded as before if nothing it is made of was written;
* `listsNormal_of_loadFrom` : the files that a layer lists have paths in normal form.
-/

namespace ApiShapes

namespace TsConfigLayer

variable {tree tree' : FileTree} {unread unread' : List (List Part)} {path dir target file : Path}
  {place : Location} {layer : TsConfigLayer} {base s : String}

/-- The file of compiler options names `target` among those it extends, be it that the name means
another file. -/
def Extends (tree : FileTree) (path target : Path) : Prop :=
  ∃ source ∈ tree.textOf? path, ∃ config ∈ WrittenConfig.ofText? source, ∃ base ∈ config.bases,
    ∃ file ∈ baseFile? tree (path.parent.getD .empty) base,
      target ∈ [file, ((path.parent.getD .empty).join (.ofString base)).normal]

theorem isNormal_baseFile? (h : baseFile? tree dir base = some file) : file.IsNormal := by
  unfold baseFile? at h
  dsimp only at h
  split at h
  · split at h
    · cases h
      exact Path.normal_isNormal _
    · cases h
      exact (Path.normal_isNormal _).append (by decide)
  · cases h

/-- Which file a name means depends only on whether the name itself is that of a file. -/
theorem baseFile?_congr
    (h : (baseFile? tree dir base).isSome = true →
      tree'.isFile (dir.join (.ofString base)).normal =
        tree.isFile (dir.join (.ofString base)).normal) :
    baseFile? tree' dir base = baseFile? tree dir base := by
  unfold baseFile? at h ⊢
  dsimp only at h ⊢
  split
  · rename_i hrelative
    rw [if_pos hrelative] at h
    rw [h (by split <;> rfl)]
  · rfl

/-! ## What a layer consists of -/

/-- A layer is loaded from the text of its file over the layers of the files it extends. -/
theorem loadFrom_eq_ok : loadFrom tree unread path = .ok layer ↔
    ∃ loc source config lower, tree.textAt path = .ok (loc, source) ∧ path.parts ∈ unread ∧
      WrittenConfig.ofText? source = some config ∧
      ((config.bases.filterMap (baseFile? tree (path.parent.getD .empty))).foldlM
        (fun lower base => do
          return (← loadFrom tree (without path.parts unread) base).above lower) {}) = .ok lower ∧
      layer = (ofWritten (path.parent.getD .empty) config).above lower := by
  rw [loadFrom]
  constructor
  · intro h
    split at h
    · cases h
    · rename_i loc source htext
      rw [htext]
      split at h
      · rename_i hloc
        split at h
        · cases h
        · rename_i config hconfig
          obtain ⟨lower, hlower, hlayer⟩ := bind_eq_ok.1 h
          cases hlayer
          exact ⟨loc, source, config, lower, rfl, hloc, hconfig, hlower, rfl⟩
      · cases h
  · rintro ⟨loc, source, config, lower, htext, hloc, hconfig, hlower, rfl⟩
    simp only [htext, hloc, hconfig, dif_pos]
    rw [hlower]
    rfl

theorem above_step_eq_ok {lower result : TsConfigLayer} {unread : List (List Part)} {base : Path} :
    (do return (← loadFrom tree unread base).above lower : Except ConfigError TsConfigLayer) =
        .ok result ↔
      ∃ upper, loadFrom tree unread base = .ok upper ∧ result = upper.above lower := by
  cases loadFrom tree unread base <;> simp [bind, Except.bind, pure, Except.pure, eq_comm]

/-- Whatever a layer that is loaded has if those that it extends have it, every such layer has. -/
theorem loadFrom_induction {motive : List (List Part) → Path → TsConfigLayer → Prop}
    (h : ∀ {unread path loc source config lower},
      tree.textAt path = .ok (loc, source) → path.parts ∈ unread →
      WrittenConfig.ofText? source = some config →
      ((config.bases.filterMap (baseFile? tree (path.parent.getD .empty))).foldlM
        (fun lower base => do
          return (← loadFrom tree (without path.parts unread) base).above lower) {}) = .ok lower →
      (∀ base layer, loadFrom tree (without path.parts unread) base = .ok layer →
        motive (without path.parts unread) base layer) →
      motive unread path ((ofWritten (path.parent.getD .empty) config).above lower))
    {unread : List (List Part)} {path : Path} {layer : TsConfigLayer}
    (hload : loadFrom tree unread path = .ok layer) : motive unread path layer := by
  obtain ⟨loc, source, config, lower, htext, hloc, hconfig, hlower, rfl⟩ := loadFrom_eq_ok.1 hload
  exact h htext hloc hconfig hlower fun base layer hbase => loadFrom_induction h hbase
termination_by unread.length
decreasing_by exact length_without_lt hloc

/-! ## The files that a layer lists -/

/-- All files that the layer lists have paths in normal form. -/
def ListsNormal (layer : TsConfigLayer) : Prop :=
  ∀ files, layer.files = some files → ∀ file ∈ files, file.IsNormal

theorem ListsNormal.above {upper lower : TsConfigLayer} (hupper : upper.ListsNormal)
    (hlower : lower.ListsNormal) : (upper.above lower).ListsNormal := by
  intro files hfiles
  cases hsaid : upper.files with
  | some said =>
    obtain rfl : said = files := by simpa [TsConfigLayer.above, hsaid] using hfiles
    exact hupper said hsaid
  | none => exact hlower files (by simpa [TsConfigLayer.above, hsaid] using hfiles)

theorem listsNormal_ofWritten (dir : Path) (config : WrittenConfig) :
    (ofWritten dir config).ListsNormal := by
  intro files hfiles file hfile
  obtain ⟨names, -, rfl⟩ := Option.map_eq_some_iff.1 hfiles
  obtain ⟨name, -, rfl⟩ := List.mem_map.1 hfile
  exact Path.normal_isNormal _

theorem listsNormal_of_loadFrom (h : loadFrom tree unread path = .ok layer) :
    layer.ListsNormal := by
  refine loadFrom_induction (motive := fun _ _ layer => layer.ListsNormal) ?_ h
  intro unread path loc source config lower _ _ _ hlower ih
  refine (listsNormal_ofWritten _ config).above (foldlM_induction ?_ ?_ hlower)
  · intro files hfiles
    cases hfiles
  · intro base _ lower result hbefore hresult
    obtain ⟨upper, hupper, rfl⟩ := above_step_eq_ok.1 hresult
    exact (ih base upper hupper).above hbefore

end TsConfigLayer

/-! ## Loading once more -/

open TsConfigLayer

namespace FileTree

variable {tree tree' : FileTree} {place : Location} {unread unread' : List (List Part)} {path : Path}
  {layer : TsConfigLayer} {s : String}

/-- A file of compiler options that leads to nothing that was written says the same as before. -/
theorem Writes.loadFrom_eq_ok (h : Writes s place tree tree') (hwf : tree.WellFormed)
    (hload : loadFrom tree unread path = .ok layer) (hpath : path.IsNormal)
    (hplace : ∀ q, Relation.ReflTransGen (Extends tree') path q → q.location ≠ place)
    (hsub : unread ⊆ unread') : loadFrom tree' unread' path = .ok layer := by
  refine loadFrom_induction (motive := fun unread path layer => ∀ unread', path.IsNormal →
    (∀ q, Relation.ReflTransGen (Extends tree') path q → q.location ≠ place) → unread ⊆ unread' →
      loadFrom tree' unread' path = .ok layer) ?_ hload unread' hpath hplace hsub
  clear hload hpath hplace hsub
  intro unread path loc source config lower htext hloc hconfig hlower ih unread' hpath hplace hsub
  have htext' : tree'.textAt path = .ok (loc, source) :=
    (h.textAt_iff hwf hpath (hplace path .refl)).2 htext
  have hsource : source ∈ tree'.textOf? path := by
    rw [Option.mem_def, textOf?_eq_some, readText, htext']
    rfl
  have hextends : ∀ base ∈ config.bases, ∀ file,
      baseFile? tree' (path.parent.getD .empty) base = some file →
      ∀ target ∈ [file, ((path.parent.getD .empty).join (.ofString base)).normal],
        Extends tree' path target :=
    fun base hbase file hfile target htarget =>
      ⟨source, hsource, config, hconfig, base, hbase, file, hfile, htarget⟩
  -- the names mean the same files as before, and these lead to nothing that was written either
  have hbases : config.bases.filterMap (baseFile? tree' (path.parent.getD .empty)) =
      config.bases.filterMap (baseFile? tree (path.parent.getD .empty)) := by
    refine List.filterMap_congr fun base hbase => (baseFile?_congr fun hsome => ?_).symm
    obtain ⟨file, hfile⟩ := Option.isSome_iff_exists.1 hsome
    refine (h.isFile_eq hwf (Path.normal_isNormal _) ?_).symm
    exact hplace _ (.single (hextends base hbase file hfile _ (by simp)))
  refine TsConfigLayer.loadFrom_eq_ok.2 ⟨loc, source, config, lower, htext', hsub hloc, hconfig, ?_, rfl⟩
  rw [hbases]
  refine foldlM_eq_ok_of_imp (fun file hfile lower result hresult => ?_) hlower
  obtain ⟨upper, hupper, rfl⟩ := above_step_eq_ok.1 hresult
  rw [← hbases] at hfile
  obtain ⟨base, hbase, hfile⟩ := List.mem_filterMap.1 hfile
  have hfirst : Extends tree' path file := hextends base hbase file hfile file (by simp)
  refine above_step_eq_ok.2 ⟨upper, ih file upper hupper _ (isNormal_baseFile? hfile)
    (fun q hq => hplace q (.head hfirst hq)) ?_, rfl⟩
  intro left hleft
  rw [mem_without] at hleft ⊢
  exact ⟨hsub hleft.1, hleft.2⟩

end FileTree

end ApiShapes
