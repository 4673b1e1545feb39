import ApiShapes.Proofs.TsConfig.RootFiles

/-!
# Which compiler configurations load

* `TsConfigLayer.RestsOn` : a file of compiler options names another one that it extends;
* `TsConfigLayer.Sound`, `TsConfigLayer.Circles` : a file that can be read and parsed, and one that leads
  back to itself;
* `TsConfigLayer.sound_of_loadFrom` : what loads reaches only sound files, and none twice on one way;
* `TsConfigLayer.ReadAlong` : what the chain of files being read tells about the unread ones, so that
  loading with the chain, `TsConfigLayer.loadAlong`, has the same outcome;
* `TsConfigLayer.Blames` : an error is about a file that loading reaches;
* `TsConfig.load_acyclic` : loading ends, and accepts the chains without a cycle.
-/

namespace ApiShapes

namespace TsConfigLayer

variable {tree : FileTree} {path base q r start : Path} {chain : List Path} {unread : List (List Part)}
  {layer : TsConfigLayer} {e : ConfigError}

/-- What the path's file says, if it can be read and says compiler options. -/
def written? (tree : FileTree) (path : Path) : Option WrittenConfig :=
  (tree.textAt path).toOption.bind fun (_, source) => WrittenConfig.ofText? source

def RestsOn (tree : FileTree) (path base : Path) : Prop :=
  ∃ config ∈ written? tree path, ∃ entry ∈ config.bases,
    base ∈ baseFile? tree (path.parent.getD .empty) entry

/-- From `path` one comes to `q` along files that are extended. -/
def Reaches (tree : FileTree) : Path → Path → Prop :=
  Relation.ReflTransGen (RestsOn tree)

/-- The path leads to a text that says compiler options. -/
def Sound (tree : FileTree) (path : Path) : Prop :=
  (written? tree path).isSome

/-- The file extends itself, be it over others. -/
def Circles (tree : FileTree) (path : Path) : Prop :=
  ∃ q, Relation.TransGen (RestsOn tree) path q ∧ q.same path

/-- What the error says of the files that loading `path` reaches is so. -/
def Blames (tree : FileTree) (path : Path) : ConfigError → Prop
  | .unreadable q cause => Reaches tree path q ∧ tree.textAt q = .error cause
  | .badTsConfig q => Reaches tree path q ∧
      ∃ loc source, tree.textAt q = .ok (loc, source) ∧ WrittenConfig.ofText? source = none
  | .circularExtends q => ∃ r, Reaches tree path r ∧ Relation.TransGen (RestsOn tree) r q ∧ q.same r
  | _ => False

theorem same_iff : q.same r = true ↔ q.parts = r.parts := beq_iff_eq

theorem written?_eq_some {config : WrittenConfig} : written? tree path = some config ↔
    ∃ loc source, tree.textAt path = .ok (loc, source) ∧ WrittenConfig.ofText? source = some config := by
  rw [written?]
  cases tree.textAt path with
  | error cause => simp [Except.toOption]
  | ok found =>
    obtain ⟨loc, source⟩ := found
    simp [Except.toOption]

theorem restsOn_iff {loc : Location} {source : String} {config : WrittenConfig}
    (htext : tree.textAt path = .ok (loc, source)) (hconfig : WrittenConfig.ofText? source = some config) :
    RestsOn tree path base ↔
      base ∈ config.bases.filterMap (baseFile? tree (path.parent.getD .empty)) := by
  rw [RestsOn, written?_eq_some.2 ⟨loc, source, htext, hconfig⟩, List.mem_filterMap]
  simp

theorem RestsOn.isNormal (h : RestsOn tree path base) : base.IsNormal := by
  obtain ⟨config, -, entry, -, hbase⟩ := h
  exact isNormal_baseFile? hbase

theorem Reaches.isNormal (h : Reaches tree path q) (hpath : path.IsNormal) : q.IsNormal := by
  rcases h.cases_tail with rfl | ⟨r, -, hlast⟩
  · exact hpath
  · exact hlast.isNormal

theorem eq_of_same (hq : q.IsNormal) (hr : r.IsNormal) (h : q.same r = true) : q = r := by
  rw [← hq.normal_eq, ← hr.normal_eq, Path.normal, Path.normal, same_iff.1 h]

/-! ## Files that load -/

/-- A file that is read over others has nothing below it that is read already: every file that it
reaches is sound, and none leads back to itself. -/
theorem sound_of_loadFrom (h : loadFrom tree unread path = .ok layer) :
    ∀ q, Reaches tree path q → Sound tree q ∧ q.parts ∈ unread ∧ ¬ Circles tree q := by
  refine loadFrom_induction (motive := fun unread path _ => ∀ q, Reaches tree path q →
    Sound tree q ∧ q.parts ∈ unread ∧ ¬ Circles tree q) ?_ h
  clear h
  intro unread path loc source config lower htext hpath hconfig hlower ih
  have hbases : ∀ base, RestsOn tree path base → ∀ q, Reaches tree base q →
      Sound tree q ∧ q.parts ∈ without path.parts unread ∧ ¬ Circles tree q := by
    intro base hbase
    rw [restsOn_iff htext hconfig] at hbase
    obtain ⟨before, after, hstep⟩ := exists_step_of_foldlM hlower hbase
    obtain ⟨upper, hupper, -⟩ := above_step_eq_ok.1 hstep
    exact ih base upper hupper
  intro q hq
  rcases hq.cases_head with rfl | ⟨base, hbase, hq⟩
  · have hsound : written? tree path = some config := written?_eq_some.2 ⟨loc, source, htext, hconfig⟩
    refine ⟨by rw [Sound, hsound]; rfl, hpath, ?_⟩
    -- what comes behind `path` was read with the parts of `path` taken out
    rintro ⟨r, hr, hsame⟩
    obtain ⟨base, hbase, hr⟩ := Relation.TransGen.head'_iff.1 hr
    exact (mem_without.1 (hbases base hbase r hr).2.1).2 (same_iff.1 hsame)
  · obtain ⟨hsound, hmem, hcircles⟩ := hbases base hbase q hq
    exact ⟨hsound, (mem_without.1 hmem).1, hcircles⟩

/-! ## The chain of files being read -/

/-- `path` is reached from `start` over the files of the chain, which are being read; of the readable files
that come next the others are unread. -/
structure ReadAlong (tree : FileTree) (start : Path) (chain : List Path) (unread : List (List Part))
    (path : Path) : Prop where
  reached : Reaches tree start path
  readable : ∀ c ∈ chain, ∃ found, tree.textAt c = .ok found
  leads : ∀ c ∈ chain, Reaches tree start c ∧ Relation.TransGen (RestsOn tree) c path
  mem_unread : ∀ r, Reaches tree path r → (∃ found, tree.textAt r = .ok found) →
    (r.parts ∈ unread ↔ ∀ c ∈ chain, r.same c = false)

theorem ReadAlong.step (h : ReadAlong tree start chain unread path)
    (hfound : ∃ found, tree.textAt path = .ok found) (hbase : RestsOn tree path base) :
    ReadAlong tree start (path :: chain) (without path.parts unread) base where
  reached := h.reached.tail hbase
  readable := List.forall_mem_cons.2 ⟨hfound, h.readable⟩
  leads := List.forall_mem_cons.2 ⟨⟨h.reached, .single hbase⟩, fun c hc =>
    ⟨(h.leads c hc).1, (h.leads c hc).2.tail hbase⟩⟩
  mem_unread r hr hreadable := by
    rw [mem_without, h.mem_unread r (.head hbase hr) hreadable, List.forall_mem_cons, and_comm,
      ← Bool.not_eq_true, same_iff]

/-- A file that has the parts of one in the chain can be read as well. -/
theorem ReadAlong.exists_textAt (h : ReadAlong tree start chain unread path) {c : Path}
    (hc : c ∈ chain) (hsame : path.same c = true) : ∃ found, tree.textAt path = .ok found := by
  obtain ⟨found, hfound⟩ := h.readable c hc
  obtain ⟨q, -, hlast⟩ := Relation.TransGen.tail'_iff.1 (h.leads c hc).2
  exact ⟨found, FileTree.textAt_of_same hlast.isNormal hsame hfound⟩

theorem ReadAlong.not_mem_iff (h : ReadAlong tree start chain unread path)
    (hfound : ∃ found, tree.textAt path = .ok found) :
    path.parts ∉ unread ↔ ∃ c ∈ chain, path.same c = true := by
  rw [h.mem_unread path .refl hfound]
  simp

/-- A path in normal form that leads to a text is among those of the files. -/
theorem mem_filePaths_of_textAt (hpath : path.IsNormal) {found : Location × String}
    (h : tree.textAt path = .ok found) : path ∈ tree.filePaths := by
  obtain ⟨loc, source⟩ := found
  obtain ⟨-, hwalk, hentry⟩ := FileTree.locate_eq_ok.1 (FileTree.locate_of_textAt h)
  rw [FileTree.walk_pieces hpath] at hwalk
  obtain rfl := FileTree.eq_append_of_walk (fun s => Path.isName_of_mem_location) hwalk
  exact List.mem_flatMap.2 ⟨_, FileTree.mem_fileLocations_of_entryAt hentry, hpath.mem_spellings⟩

/-- Before loading starts nothing is being read, and every readable file is unread. -/
theorem readAlong_start (tree : FileTree) (path : Path) :
    ReadAlong tree path [] ((path :: tree.filePaths).map Path.parts) path where
  reached := .refl
  readable c hc := by cases hc
  leads c hc := by cases hc
  mem_unread := by
    rintro r hr ⟨found, hfound⟩
    refine iff_of_true (List.mem_map_of_mem ?_) fun c hc => by cases hc
    rcases hr.cases_tail with rfl | ⟨q, -, hlast⟩
    · exact List.mem_cons_self
    · exact List.mem_cons_of_mem _ (mem_filePaths_of_textAt hlast.isNormal hfound)

/-- Loading with the chain of the files that are being read, nested less than `depth` times; `none` is no
outcome. -/
def loadAlong (tree : FileTree) : Nat → List Path → Path → Option (Except ConfigError TsConfigLayer)
  | 0, _, _ => none
  | depth + 1, chain, path =>
    if chain.any path.same then some (.error (.circularExtends path))
    else
      match tree.textAt path with
      | .error cause => some (.error (.unreadable path cause))
      | .ok (_, source) =>
        match WrittenConfig.ofText? source with
        | none => some (.error (.badTsConfig path))
        | some config => ExceptT.run do
          let dir := path.parent.getD .empty
          let bases := config.bases.filterMap (baseFile? tree dir)
          let lower ← bases.foldlM (fun lower base => do
            return (← ExceptT.mk (loadAlong tree depth (path :: chain) base)).above lower) {}
          return (ofWritten dir config).above lower

theorem run_foldlM_eq_some {ε α β : Type} {f : β → α → ExceptT ε Option β} {g : β → α → Except ε β}
    {as : List α} {start : β} (h : ∀ a ∈ as, ∀ b, (f b a).run = some (g b a)) :
    (as.foldlM f start).run = some (as.foldlM g start) := by
  induction as generalizing start with
  | nil => rfl
  | cons a as ih =>
    rw [List.foldlM_cons, List.foldlM_cons, ExceptT.run_bind, h a List.mem_cons_self]
    cases g start a with
    | error e => rfl
    | ok next => exact ih fun b hb => h b (List.mem_cons_of_mem a hb)

theorem run_map_eq_some {ε α β : Type} (x : Except ε α) (f : α → β) :
    (do return f (← ExceptT.mk (some x)) : ExceptT ε Option β).run = some (do return f (← x)) := by
  cases x <;> rfl

/-- The chain tells as much as the files that are unread, and the nesting ends with them. -/
theorem loadAlong_eq {depth : Nat} (h : ReadAlong tree start chain unread path)
    (hdepth : unread.length < depth) :
    loadAlong tree depth chain path = some (loadFrom tree unread path) := by
  induction depth generalizing chain unread path with
  | zero => omega
  | succ depth ih =>
    rw [loadAlong, loadFrom]
    by_cases hchain : ∃ c ∈ chain, path.same c = true
    · obtain ⟨c, hc, hsame⟩ := hchain
      obtain ⟨found, hfound⟩ := h.exists_textAt hc hsame
      have hpath := (h.not_mem_iff ⟨found, hfound⟩).2 ⟨c, hc, hsame⟩
      rw [if_pos (List.any_eq_true.2 ⟨c, hc, hsame⟩), hfound]
      simp only [dif_neg hpath]
    · rw [if_neg (fun hany => hchain (List.any_eq_true.1 hany))]
      cases htext : tree.textAt path with
      | error cause => rfl
      | ok found =>
        obtain ⟨loc, source⟩ := found
        have hpath : path.parts ∈ unread := by
          by_contra hpath
          exact hchain ((h.not_mem_iff ⟨_, htext⟩).1 hpath)
        simp only [dif_pos hpath]
        cases hconfig : WrittenConfig.ofText? source with
        | none => rfl
        | some config =>
          have hshorter := length_without_lt hpath
          have hbases : ∀ base ∈ config.bases.filterMap (baseFile? tree (path.parent.getD .empty)),
              ∀ lower : TsConfigLayer,
                (do return (← ExceptT.mk (loadAlong tree depth (path :: chain) base)).above lower :
                  ExceptT ConfigError Option TsConfigLayer).run =
                some (do return (← loadFrom tree (without path.parts unread) base).above lower) := by
            intro base hbase lower
            rw [← restsOn_iff htext hconfig] at hbase
            rw [ih (h.step ⟨_, htext⟩ hbase) (by omega)]
            exact run_map_eq_some _ _
          dsimp only
          rw [ExceptT.run_bind, run_foldlM_eq_some hbases]
          exact run_map_eq_some _ _

/-! ## Errors -/

theorem above_step_eq_error {lower : TsConfigLayer} (h : (do
    return (← loadFrom tree unread base).above lower : Except ConfigError TsConfigLayer) = .error e) :
    loadFrom tree unread base = .error e := by
  cases hload : loadFrom tree unread base with
  | error found =>
    rw [hload] at h
    cases h
    rfl
  | ok upper =>
    rw [hload] at h
    cases h

theorem blames_of_loadFrom {chain : List Path} {unread : List (List Part)} {path : Path}
    (hread : ReadAlong tree start chain unread path) (h : loadFrom tree unread path = .error e) :
    Blames tree start e := by
  rw [loadFrom] at h
  cases htext : tree.textAt path with
  | error cause =>
    rw [htext] at h
    cases h
    exact ⟨hread.reached, htext⟩
  | ok found =>
    obtain ⟨loc, source⟩ := found
    simp only [htext] at h
    by_cases hpath : path.parts ∈ unread
    · rw [dif_pos hpath] at h
      cases hconfig : WrittenConfig.ofText? source with
      | none =>
        rw [hconfig] at h
        cases h
        exact ⟨hread.reached, loc, source, htext, hconfig⟩
      | some config =>
        simp only [hconfig] at h
        rcases bind_eq_error.1 h with hlower | ⟨lower, -, hlayer⟩
        · obtain ⟨base, hbase, lower, hstep⟩ := exists_step_of_foldlM_error hlower
          have hbase := (restsOn_iff htext hconfig).2 hbase
          exact blames_of_loadFrom (hread.step ⟨_, htext⟩ hbase) (above_step_eq_error hstep)
        · cases hlayer
    · rw [dif_neg hpath] at h
      cases h
      obtain ⟨c, hc, hsame⟩ := (hread.not_mem_iff ⟨_, htext⟩).1 hpath
      exact ⟨c, (hread.leads c hc).1, (hread.leads c hc).2, hsame⟩
termination_by unread.length
decreasing_by exact length_without_lt hpath

theorem blames_of_load (h : load tree path = .error e) : Blames tree path e :=
  blames_of_loadFrom (readAlong_start tree path) h

/-! ## Chains without a cycle -/

theorem not_blames (hsound : ∀ q, Reaches tree path q → Sound tree q ∧ ¬ Circles tree q) :
    ¬ Blames tree path e := by
  intro hblames
  cases e with
  | unreadable q cause =>
    obtain ⟨hq, htext⟩ := hblames
    have := (hsound q hq).1
    simp [Sound, written?, htext, Except.toOption] at this
  | badTsConfig q =>
    obtain ⟨hq, loc, source, htext, hconfig⟩ := hblames
    have := (hsound q hq).1
    simp [Sound, written?, htext, hconfig, Except.toOption] at this
  | circularExtends q =>
    obtain ⟨r, hr, hq, hsame⟩ := hblames
    exact (hsound r hr).2 ⟨q, hq, hsame⟩
  | _ => exact hblames

theorem load_iff : (∃ layer, load tree path = .ok layer) ↔
    ∀ q, Reaches tree path q → Sound tree q ∧ ¬ Circles tree q := by
  constructor
  · rintro ⟨layer, hlayer⟩ q hq
    obtain ⟨hsound, -, hcircles⟩ := sound_of_loadFrom hlayer q hq
    exact ⟨hsound, hcircles⟩
  · intro hsound
    cases hload : load tree path with
    | ok layer => exact ⟨layer, rfl⟩
    | error e => exact (not_blames hsound (blames_of_load hload)).elim

/-- A file with a path in normal form leads back to itself under that path. -/
theorem circles_iff (hq : q.IsNormal) : Circles tree q ↔ Relation.TransGen (RestsOn tree) q q := by
  constructor
  · rintro ⟨r, hr, hsame⟩
    obtain ⟨_, -, hlast⟩ := Relation.TransGen.tail'_iff.1 hr
    rwa [eq_of_same hlast.isNormal hq hsame] at hr
  · exact fun h => ⟨q, h, same_iff.2 rfl⟩

end TsConfigLayer

namespace TsConfig
open TsConfigLayer

variable {tree : FileTree} {path q : Path} {e : ConfigError}

theorem load_eq_error : load tree path = .error e ↔ TsConfigLayer.load tree path.normal = .error e := by
  rw [load, bind_eq_error]
  constructor
  · rintro (h | ⟨layer, -, ⟨⟩⟩)
    exact h
  · exact .inl

theorem load_iff : (∃ config, load tree path = .ok config) ↔
    ∀ q, TsConfigLayer.Reaches tree path.normal q →
      Sound tree q ∧ ¬ Relation.TransGen (RestsOn tree) q q := by
  have hlayer : (∃ config, load tree path = .ok config) ↔
      ∃ layer, TsConfigLayer.load tree path.normal = .ok layer := by
    simp only [load_eq_ok]
    exact ⟨fun ⟨_, layer, h, _⟩ => ⟨layer, h⟩, fun ⟨layer, h⟩ => ⟨_, layer, h, rfl⟩⟩
  rw [hlayer, TsConfigLayer.load_iff]
  refine forall₂_congr fun q hq => ?_
  rw [circles_iff (hq.isNormal path.normal_isNormal)]

theorem reaches_of_load_circular (h : load tree path = .error (.circularExtends q)) :
    TsConfigLayer.Reaches tree path.normal q ∧ Relation.TransGen (RestsOn tree) q q := by
  obtain ⟨r, hr, hq, hsame⟩ := blames_of_load (load_eq_error.1 h)
  obtain ⟨_, -, hlast⟩ := Relation.TransGen.tail'_iff.1 hq
  obtain rfl := eq_of_same hlast.isNormal (hr.isNormal path.normal_isNormal) hsame
  exact ⟨hr, hq⟩

/-- Loading with a chain of the files that are being read comes to an end before it nests deeper than there
are paths of files. It has a result if and only if every file that it reaches can be read and parsed and
none leads back to itself, so that two files may extend a third one in common; otherwise the error tells
what is wrong with a file that is reached, and one that is called circular leads back to itself. A path
that is not in normal form counts as the same as any other with its parts. -/
theorem load_acyclic (tree : FileTree) (path : Path) :
    (∀ depth, tree.filePaths.length + 1 < depth →
      loadAlong tree depth [] path = some (TsConfigLayer.load tree path)) ∧
    ((∃ layer, TsConfigLayer.load tree path = .ok layer) ↔
      ∀ q, TsConfigLayer.Reaches tree path q → Sound tree q ∧ ¬ Circles tree q) ∧
    (∀ e, TsConfigLayer.load tree path = .error e → Blames tree path e) ∧
    ((∃ config, load tree path = .ok config) ↔
      ∀ q, TsConfigLayer.Reaches tree path.normal q →
        Sound tree q ∧ ¬ Relation.TransGen (RestsOn tree) q q) ∧
    (∀ e, load tree path = .error e → Blames tree path.normal e) ∧
    ∀ q, load tree path = .error (.circularExtends q) →
      TsConfigLayer.Reaches tree path.normal q ∧ Relation.TransGen (RestsOn tree) q q := by
  refine ⟨fun depth hdepth => ?_, TsConfigLayer.load_iff, fun _ => blames_of_load, load_iff,
    fun _ h => blames_of_load (load_eq_error.1 h), fun _ => reaches_of_load_circular⟩
  have hlength : ((path :: tree.filePaths).map Path.parts).length < depth := by
    rwa [List.length_map, List.length_cons]
  exact loadAlong_eq (readAlong_start tree path) hlength

end TsConfig

end ApiShapes
