import ApiShapes.Proofs.TsConfig.Cycles
import ApiShapes.Proofs.TsConfig.RootFiles

/-!
# Which file of an extends chain a setting comes from

* `TsConfigLayer.Order` : the files of a chain in the order in which settings are looked for in them;
* `TsConfigLayer.ofSources` : the layers of files in such an order, each above those that come later;
* `TsConfigLayer.exists_order` : a layer that is loaded is that of the files in order;
* `TsConfigLayer.firstSet` : the first file that sets something, and what it says;
* `TsConfig.load_precedence` : every setting of a configuration is that of the first file that sets it.
-/

namespace ApiShapes

/-- A file of compiler options: the directory that it stands in, and what it says. -/
structure ConfigSource where
  dir : Path
  config : WrittenConfig

namespace TsConfigLayer

/-- The files that settings are looked for in, from some files on: the first of them, then those that it
extends from the last to the first, and then the others. A name of a package stands for no file. -/
inductive Order (tree : FileTree) : List Path → List ConfigSource → Prop
  | nil : Order tree [] []
  | cons {path : Path} {paths : List Path} {config : WrittenConfig} {below order : List ConfigSource}
      (hwritten : written? tree path = some config)
      (hbelow : Order tree
        (config.bases.filterMap (baseFile? tree (path.parent.getD .empty))).reverse below)
      (horder : Order tree paths order) :
      Order tree (path :: paths) (⟨path.parent.getD .empty, config⟩ :: below ++ order)

variable {tree : FileTree} {unread : List (List Part)} {path : Path} {paths : List Path}
  {order : List ConfigSource} {layer lower : TsConfigLayer}

/-- There is one such order. -/
theorem Order.unique {other : List ConfigSource} (h : Order tree paths order)
    (hother : Order tree paths other) : order = other := by
  induction h generalizing other with
  | nil =>
    cases hother
    rfl
  | cons hwritten _ _ ihBelow ih =>
    cases hother with
    | cons hwritten' hbelow' horder' =>
      cases hwritten.symm.trans hwritten'
      rw [ihBelow hbelow', ih horder']

theorem Order.append {first : List ConfigSource} (hfirst : Order tree [path] first)
    (h : Order tree paths order) : Order tree (path :: paths) (first ++ order) := by
  cases hfirst with
  | cons hwritten hbelow hnil =>
    cases hnil
    rw [List.append_nil]
    exact .cons hwritten hbelow h

/-- The layers of files, each above those that come later. -/
def ofSources (order : List ConfigSource) : TsConfigLayer :=
  order.foldr (fun source lower => (ofWritten source.dir source.config).above lower) {}

theorem open_above (layer : TsConfigLayer) : above {} layer = layer := by
  cases layer
  simp [above]

theorem above_assoc (upper middle lower : TsConfigLayer) :
    (upper.above middle).above lower = upper.above (middle.above lower) := by
  simp [above, Option.or_assoc]

theorem ofSources_append (first order : List ConfigSource) :
    ofSources (first ++ order) = (ofSources first).above (ofSources order) := by
  induction first with
  | nil => exact (open_above _).symm
  | cons source first ih =>
    rw [List.cons_append, ofSources, List.foldr_cons, ← ofSources, ih, ← above_assoc]
    rfl

/-- The layers of files that are read one after the other are those of the files in reverse. -/
theorem exists_order_of_foldlM {bases : List Path}
    (h : ∀ base layer, loadFrom tree unread base = .ok layer →
      ∃ order, Order tree [base] order ∧ layer = ofSources order)
    (horder : Order tree paths order)
    (hfold : bases.foldlM (fun lower base => do
      return (← loadFrom tree unread base).above lower) (ofSources order) = .ok layer) :
    ∃ below, Order tree (bases.reverse ++ paths) below ∧ layer = ofSources below := by
  induction bases generalizing paths order with
  | nil =>
    cases hfold
    exact ⟨order, horder, rfl⟩
  | cons base bases ih =>
    obtain ⟨next, hnext, hrest⟩ := foldlM_cons_eq_ok.1 hfold
    obtain ⟨upper, hupper, rfl⟩ := above_step_eq_ok.1 hnext
    obtain ⟨first, hfirst, rfl⟩ := h base upper hupper
    rw [← ofSources_append] at hrest
    rw [List.reverse_cons, List.append_assoc, List.singleton_append]
    exact ih (hfirst.append horder) hrest

/-- A layer that is loaded is that of the files in order. -/
theorem exists_order (h : loadFrom tree unread path = .ok layer) :
    ∃ order, Order tree [path] order ∧ layer = ofSources order := by
  refine loadFrom_induction (motive := fun _ path layer =>
    ∃ order, Order tree [path] order ∧ layer = ofSources order) ?_ h
  intro unread path loc source config lower htext _ hconfig hlower ih
  obtain ⟨below, hbelow, rfl⟩ := exists_order_of_foldlM ih .nil hlower
  rw [List.append_nil] at hbelow
  exact ⟨_, .cons (written?_eq_some.2 ⟨loc, source, htext, hconfig⟩) hbelow .nil, by
    rw [List.append_nil]; rfl⟩

/-! ## Settings -/

/-- The directory of the first file that sets something, and what it says. -/
def firstSet {α : Type} (order : List ConfigSource) (value : WrittenConfig → Option α) :
    Option (Path × α) :=
  order.findSome? fun source => (value source.config).map (source.dir, ·)

/-- What a layer takes from the upper one if it is there is set by the first file that has it. -/
theorem ofSources_eq {α β : Type} (order : List ConfigSource)
    (field : TsConfigLayer → Option β) (value : WrittenConfig → Option α) (resolve : Path → α → β)
    (habove : ∀ upper lower, field (above upper lower) = (field upper).or (field lower))
    (hopen : field {} = none)
    (hwritten : ∀ dir config, field (ofWritten dir config) = (value config).map (resolve dir)) :
    field (ofSources order) = (firstSet order value).map fun (dir, said) => resolve dir said := by
  induction order with
  | nil => exact hopen
  | cons source order ih =>
    have hfirst : firstSet (source :: order) value =
        ((value source.config).map (source.dir, ·)).or (firstSet order value) := by
      rw [firstSet, List.findSome?_cons]
      cases value source.config <;> rfl
    have hlayer : ofSources (source :: order) =
        above (ofWritten source.dir source.config) (ofSources order) := rfl
    rw [hlayer, habove, hwritten, ih, hfirst]
    cases value source.config <;> rfl

/-- The path that a file in the directory `dir` means. -/
def absolute (dir : Path) (s : String) : Path :=
  (dir.join (.ofString s)).normal

end TsConfigLayer

namespace TsConfig
open TsConfigLayer

/-- Every setting is that of the first file that sets it, as a whole and from where that file stands. -/
structure SettledBy (config : TsConfig) (order : List ConfigSource) : Prop where
  baseUrl : config.baseUrl =
    (firstSet order (·.options.baseUrl)).map fun (dir, s) => absolute dir s
  outDir : config.outDir =
    (firstSet order (·.options.outDir)).map fun (dir, s) => absolute dir s
  files : config.files =
    ((firstSet order (·.files)).map fun (dir, names) => names.map (absolute dir)).getD []
  included : config.included =
    ((firstSet order (·.included)).map fun (dir, patterns) =>
      patterns.map fun s => (absolute dir s).text).getD
        [(config.directory.join (.ofString "**/*")).text]
  /-- The output directory is excluded in any case. -/
  excluded : config.excluded =
    ((firstSet order (·.excluded)).map fun (dir, patterns) =>
      patterns.map fun s => (absolute dir s).text).getD
        (packageDirectories.map fun name => (config.directory.child name).text) ++
      (config.outDir.map Path.text).toList
  mappings : config.mappings.Perm (((firstSet order (·.options.mappings)).map (·.2)).getD [])
  sorted : config.mappings.Pairwise fun p q => fixedLength q.1 ≤ fixedLength p.1
  mappingsBase : config.mappingsBase =
    (firstSet order (·.options.mappings)).map fun (dir, _) => config.baseUrl.getD dir
  /-- The targets of patterns stand below the base URL, or else below the file that sets them. -/
  targets : ∀ dir said, firstSet order (·.options.mappings) = some (dir, said) →
    config.resolver.base = some (config.baseUrl.getD dir)

theorem pairwise_mergeSort_fixedLength (mappings : List (String × List String)) :
    (mappings.mergeSort fun p q => decide (fixedLength q.1 ≤ fixedLength p.1)).Pairwise fun p q =>
      fixedLength q.1 ≤ fixedLength p.1 := by
  have hsorted := @List.pairwise_mergeSort _
    (fun p q : String × List String => decide (fixedLength q.1 ≤ fixedLength p.1)) ?_ ?_ mappings
  · exact hsorted.imp of_decide_eq_true
  · intro p q r hpq hqr
    rw [decide_eq_true_iff] at hpq hqr ⊢
    exact Nat.le_trans hqr hpq
  · intro p q
    rw [Bool.or_eq_true, decide_eq_true_iff, decide_eq_true_iff]
    exact Nat.le_total _ _

theorem settledBy_ofLayer (path : Path) (order : List ConfigSource) :
    (ofLayer path (path.parent.getD .empty) (.ofSources order)).SettledBy order := by
  have hbaseUrl := ofSources_eq order (·.baseUrl) (·.options.baseUrl) absolute
    (fun _ _ => Option.orElse_eq_or) rfl fun _ _ => rfl
  have hmappings := ofSources_eq order (·.mappings) (·.options.mappings) Prod.mk
    (fun _ _ => Option.orElse_eq_or) rfl fun _ _ => rfl
  have houtDir := ofSources_eq order (·.outDir) (·.options.outDir) absolute
    (fun _ _ => Option.orElse_eq_or) rfl fun _ _ => rfl
  have hfiles := ofSources_eq order (·.files) (·.files)
    (fun dir names => names.map (absolute dir)) (fun _ _ => Option.orElse_eq_or) rfl fun _ _ => rfl
  have hincluded := ofSources_eq order (·.included) (·.included)
    (fun dir patterns => patterns.map fun s => (absolute dir s).text)
    (fun _ _ => Option.orElse_eq_or) rfl fun _ _ => rfl
  have hexcluded := ofSources_eq order (·.excluded) (·.excluded)
    (fun dir patterns => patterns.map fun s => (absolute dir s).text)
    (fun _ _ => Option.orElse_eq_or) rfl fun _ _ => rfl
  have hwhole : (ofSources order).mappings = firstSet order (·.options.mappings) := by
    rw [hmappings]
    exact Option.map_id'
  constructor
  case baseUrl => exact hbaseUrl
  case outDir => exact houtDir
  case files => rw [ofLayer, hfiles]
  case included =>
    rw [ofLayer, hincluded]
    rfl
  case excluded =>
    rw [ofLayer, hexcluded]
    rfl
  case mappings =>
    rw [← hwhole]
    exact List.mergeSort_perm _ _
  case sorted => exact pairwise_mergeSort_fixedLength _
  case mappingsBase => rw [ofLayer, hwhole]
  case targets =>
    intro dir said hfirst
    rw [resolver, ofLayer, hwhole, hfirst]
    rfl

/-- **Settings follow one order of precedence.** If a configuration can be loaded, each of its settings is
that of the first file that sets it, taken as a whole and from the directory of that file, where the files
come in this order: the file itself, then those that it extends from the last to the first, each with those
that it extends in turn. Where no file sets anything, the default applies, in the directory of the file
itself. -/
theorem load_precedence {tree : FileTree} {path : Path} {config : TsConfig}
    (h : load tree path = .ok config) :
    config.path = path.normal ∧ ∃ order, Order tree [path.normal] order ∧
      (∀ other, Order tree [path.normal] other → other = order) ∧
      config.SettledBy order := by
  obtain ⟨layer, hlayer, rfl⟩ := load_eq_ok.1 h
  obtain ⟨order, horder, rfl⟩ := exists_order hlayer
  exact ⟨rfl, order, horder, fun other hother => hother.unique horder, settledBy_ofLayer _ order⟩

/-- A file that extends two others, one of them in another directory. -/
def twoBases : FileTree where
  entries := [
    (["tsconfig.json"], .file (.text "\x7b\"extends\":[\"./a.json\",\"./b/c.json\"]\x7d")),
    (["a.json"], .file (.text "\x7b\"include\":[\"late\"],\"files\":[\"f.ts\"]\x7d")),
    (["b"], .directory),
    (["b", "c.json"], .file (.text "\x7b\"include\":[\"src\"]\x7d"))]

/-- The last of the files that are extended comes first, and what it leaves open is taken from the other. -/
theorem load_precedence_twoBases : ∃ config order,
    load twoBases (.ofString "/tsconfig.json") = .ok config ∧
      config.included = ["/b/src"] ∧ config.files = [.ofString "/f.ts"] ∧
      Order twoBases [.ofString "/tsconfig.json"] order ∧ config.SettledBy order := by
  have hfields : ((load twoBases (.ofString "/tsconfig.json")).toOption.map fun config =>
      (config.included, config.files)) = some (["/b/src"], [.ofString "/f.ts"]) := by
    decide +kernel
  cases hload : load twoBases (.ofString "/tsconfig.json") with
  | error e =>
    rw [hload] at hfields
    cases hfields
  | ok config =>
    rw [hload] at hfields
    obtain ⟨hincluded, hfiles⟩ := Prod.mk.inj (Option.some.inj hfields)
    obtain ⟨-, order, horder, -, hsettled⟩ := load_precedence hload
    exact ⟨config, order, rfl, hincluded, hfiles, horder, hsettled⟩

end TsConfig

end ApiShapes
