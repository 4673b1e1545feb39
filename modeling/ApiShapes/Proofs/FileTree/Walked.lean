import ApiShapes.Proofs.FileTree.Listing
import ApiShapes.Proofs.Path.Below
import Mathlib.Algebra.Order.BigOperators.Group.List
import Mathlib.Data.List.Nodup

/-!
# Walking down a file tree

* `FileTree.Distinct` : no location has two entries, so that the locations of files are told by what stands
  at them (`Distinct.mem_fileLocations_iff`);
* `FileTree.Walk` : the files that a walk comes upon, where names beside each other go in order and some
  directories are not entered;
* `Walk.unique` : they are told by the tree;
* `Distinct.namesBelow_eq` : sorting the names that lead to files is the same as going through the names of
  a directory one after the other;
* `Distinct.walk_filesBelow` : so the files below a directory are those that a walk comes upon.
-/

namespace ApiShapes

theorem Path.IsNormal.fileName_child {path : Path} (h : path.IsNormal) {s : String} (hs : IsName s) :
    (path.child s).fileName = some s := by
  obtain ⟨lead, hlead, names, hnames, rfl⟩ := h.exists_names
  rw [child_ofNames hlead hnames, fileName, parts_ofNames hlead (isName_of_mem_concat hnames hs)]
  simp

namespace FileTree

variable {tree : FileTree} {skipped s : String} {path dir : Path} {loc base names : Location}
  {entry : Entry} {content : Content}

/-- No location has two entries, and the root, which is always there, has none. -/
def Distinct (tree : FileTree) : Prop :=
  ([] :: tree.entries.map (·.1)).Nodup

instance (tree : FileTree) : Decidable tree.Distinct :=
  inferInstanceAs (Decidable (List.Nodup _))

namespace Distinct

theorem ne_nil (h : tree.Distinct) (hmem : (loc, entry) ∈ tree.entries) : loc ≠ [] := by
  rintro rfl
  exact (List.nodup_cons.1 h).1 (List.mem_map.2 ⟨_, hmem, rfl⟩)

/-- An entry is what stands at its location. -/
theorem entryAt_eq_some_iff (h : tree.Distinct) (hloc : loc ≠ []) :
    tree.entryAt loc = some entry ↔ (loc, entry) ∈ tree.entries := by
  refine ⟨mem_entries_of_entryAt hloc, fun hmem => ?_⟩
  obtain ⟨name, names, rfl⟩ := List.exists_cons_of_ne_nil hloc
  obtain ⟨before, after, hsplit⟩ := List.append_of_mem hmem
  refine List.lookup_eq_some_iff.2 ⟨before, after, hsplit, fun other hother => ?_⟩
  have hnodup := (List.nodup_cons.1 h).2
  rw [hsplit, List.map_append, List.map_cons] at hnodup
  have hapart := (List.nodup_append.1 hnodup).2.2 other.1 (List.mem_map_of_mem hother)
    (name :: names) List.mem_cons_self
  simpa using hapart.symm

theorem mem_fileLocations_iff (h : tree.Distinct) :
    loc ∈ tree.fileLocations ↔ ∃ content, tree.entryAt loc = some (.file content) := by
  refine ⟨fun hloc => ?_, fun ⟨content, hentry⟩ => mem_fileLocations_of_entryAt hentry⟩
  obtain ⟨content, hmem⟩ := mem_fileLocations.1 hloc
  exact ⟨content, (h.entryAt_eq_some_iff (h.ne_nil hmem)).2 hmem⟩

end Distinct

/-! ## Walks -/

/-- The files that a walk comes upon below the path, which leads to the location. Names beside each other
go in order, and a directory called `skipped` is not entered. -/
inductive Walk (tree : FileTree) (skipped : String) : Path → Location → List Path → Prop where
  | file {path : Path} {loc : Location} {content : Content}
      (entry : tree.entryAt loc = some (.file content)) : Walk tree skipped path loc [path]
  | skipped {path : Path} {loc : Location} (entry : tree.entryAt loc = some .directory)
      (name : path.fileName = some skipped) : Walk tree skipped path loc []
  | directory {path : Path} {loc : Location} {names : List String} {found : String → List Path}
      (entry : tree.entryAt loc = some .directory) (name : path.fileName ≠ some skipped)
      (sorted : names.Pairwise (· < ·))
      (exact : ∀ s, s ∈ names ↔ tree.entryAt (loc ++ [s]) ≠ none)
      (below : ∀ s ∈ names, Walk tree skipped (path.child s) (loc ++ [s]) (found s)) :
      Walk tree skipped path loc (names.flatMap found)

/-- Sorted lists with the same items are the same. -/
theorem eq_of_sorted {as bs : List String} (has : as.Pairwise (· < ·)) (hbs : bs.Pairwise (· < ·))
    (hmem : ∀ s, s ∈ as ↔ s ∈ bs) : as = bs := by
  have hnodup : ∀ {cs : List String}, cs.Pairwise (· < ·) → cs.Nodup :=
    fun h => h.imp fun hlt => ne_of_lt hlt
  refine List.Perm.eq_of_pairwise (fun a b _ _ hab hba => ?_) has hbs
    ((List.perm_ext_iff_of_nodup (hnodup has) (hnodup hbs)).2 hmem)
  exact absurd hab (String.lt_asymm hba)

/-- A walk comes upon the same files each time. -/
theorem Walk.unique {found found' : List Path} (h : tree.Walk skipped path loc found)
    (h' : tree.Walk skipped path loc found') : found = found' := by
  induction h generalizing found' with
  | file hentry =>
    cases h' with
    | file => rfl
    | skipped hentry' => cases hentry.symm.trans hentry'
    | directory hentry' => cases hentry.symm.trans hentry'
  | skipped hentry hname =>
    cases h' with
    | file hentry' => cases hentry.symm.trans hentry'
    | skipped => rfl
    | directory _ hname' => exact absurd hname hname'
  | directory hentry hname hsorted hexact _ ih =>
    cases h' with
    | file hentry' => cases hentry.symm.trans hentry'
    | skipped _ hname' => exact absurd hname' hname
    | directory _ _ hsorted' hexact' hbelow' =>
      obtain rfl := eq_of_sorted hsorted hsorted' fun s => (hexact s).trans (hexact' s).symm
      exact List.flatMap_congr fun s hs => ih s hs (hbelow' s hs)

/-! ## The names in a directory -/

def childNames (tree : FileTree) (loc : Location) : List String :=
  let child? := fun place =>
    match below? loc place with
    | some [s] => some s
    | _ => none
  ((tree.entries.map (·.1)).filterMap child?).mergeSort (· ≤ ·)

theorem mem_childNames : s ∈ tree.childNames loc ↔ ∃ entry, (loc ++ [s], entry) ∈ tree.entries := by
  rw [childNames, (List.mergeSort_perm _ _).mem_iff, List.mem_filterMap]
  constructor
  · rintro ⟨place, hplace, hchild⟩
    obtain ⟨⟨_, entry⟩, hentry, rfl⟩ := List.mem_map.1 hplace
    split at hchild
    · rename_i name hbelow
      cases hchild
      exact ⟨entry, below?_eq_some.1 hbelow ▸ hentry⟩
    · cases hchild
  · rintro ⟨entry, hentry⟩
    refine ⟨loc ++ [s], List.mem_map.2 ⟨_, hentry, rfl⟩, ?_⟩
    rw [below?_eq_some.2 rfl]

namespace Distinct

theorem mem_childNames_iff (h : tree.Distinct) :
    s ∈ tree.childNames loc ↔ tree.entryAt (loc ++ [s]) ≠ none := by
  rw [mem_childNames, Option.ne_none_iff_exists']
  exact exists_congr fun entry => (h.entryAt_eq_some_iff (by simp)).symm

theorem sorted_childNames (h : tree.Distinct) (loc : Location) :
    (tree.childNames loc).Pairwise (· < ·) := by
  have hsorted : (tree.childNames loc).Pairwise fun s t => decide (s ≤ t) = true :=
    @List.pairwise_mergeSort _ (fun s t : String => decide (s ≤ t))
      (fun _ _ _ hab hbc => decide_eq_true
        (String.le_trans (of_decide_eq_true hab) (of_decide_eq_true hbc)))
      (fun s t => by simp [String.le_total]) _
  have hnodup : (tree.childNames loc).Nodup := by
    rw [childNames, (List.mergeSort_perm _ _).nodup_iff]
    refine List.Nodup.filterMap (fun place place' s hs hs' => ?_) (List.nodup_cons.1 h).2
    split at hs <;> cases hs
    split at hs' <;> cases hs'
    rename_i hbelow _ hbelow'
    rw [below?_eq_some.1 hbelow, below?_eq_some.1 hbelow']
  refine (hsorted.and hnodup).imp fun {s t} hst => ?_
  exact String.not_le.1 fun hts => hst.2 (String.le_antisymm (of_decide_eq_true hst.1) hts)

end Distinct

/-! ## Going through the names of a directory -/

/-- The files at or below one name in a directory, each by the names that lead to it from there. -/
def namesThrough (tree : FileTree) (skipped : String) (base : Location) (s : String) : List Location :=
  match tree.entryAt (base ++ [s]) with
  | none => []
  | some (.file _) => [[s]]
  | some .directory =>
    if s = skipped then [] else (tree.namesBelow skipped (base ++ [s])).map (s :: ·)

namespace Distinct

/-- What leads to a file stands there. -/
theorem entryAt_ne_none (h : tree.Distinct) (hwf : tree.WellFormed)
    (hfile : base ++ s :: names ∈ tree.fileLocations) : tree.entryAt (base ++ [s]) ≠ none := by
  obtain ⟨content, hentry⟩ := h.mem_fileLocations_iff.1 hfile
  rw [List.append_cons] at hentry
  by_cases hnames : names = []
  · rw [hnames, List.append_nil] at hentry
    rw [hentry]
    exact Option.some_ne_none _
  · rw [hwf.entryAt_append names hnames hentry]
    exact Option.some_ne_none _

/-- Only directories have something below them. -/
theorem eq_nil_of_file (h : tree.Distinct) (hwf : tree.WellFormed)
    (hfile : tree.entryAt loc = some (.file content)) (hbelow : loc ++ names ∈ tree.fileLocations) :
    names = [] := by
  by_contra hnames
  obtain ⟨other, hother⟩ := h.mem_fileLocations_iff.1 hbelow
  cases hfile.symm.trans (hwf.entryAt_append names hnames hother)

theorem ne_nil_of_directory (h : tree.Distinct) (hdir : tree.entryAt loc = some .directory)
    (hbelow : loc ++ names ∈ tree.fileLocations) : names ≠ [] := by
  rintro rfl
  rw [List.append_nil] at hbelow
  obtain ⟨content, hfile⟩ := h.mem_fileLocations_iff.1 hbelow
  cases hfile.symm.trans hdir

/-- What lies below a name in a directory lies below the directory of that name. -/
theorem cons_mem_namesBelow (h : tree.Distinct) (hdir : tree.entryAt (base ++ [s]) = some .directory) :
    s :: names ∈ tree.namesBelow skipped base ↔
      s ≠ skipped ∧ names ∈ tree.namesBelow skipped (base ++ [s]) := by
  rw [mem_namesBelow_iff, mem_namesBelow_iff, List.append_cons]
  have hlast : base ++ [s] ++ names ∈ tree.fileLocations →
      (skipped ∉ (s :: names).dropLast ↔ s ≠ skipped ∧ skipped ∉ names.dropLast) := by
    intro hfile
    rw [List.dropLast_cons_of_ne_nil (h.ne_nil_of_directory hdir hfile), List.mem_cons, not_or, ne_comm]
  constructor
  · rintro ⟨hfile, hskipped⟩
    exact ⟨((hlast hfile).1 hskipped).1, hfile, ((hlast hfile).1 hskipped).2⟩
  · rintro ⟨hs, hfile, hskipped⟩
    exact ⟨hfile, (hlast hfile).2 ⟨hs, hskipped⟩⟩

theorem mem_namesThrough (h : tree.Distinct) (hwf : tree.WellFormed) :
    names ∈ tree.namesThrough skipped base s ↔
      ∃ rest, names = s :: rest ∧ names ∈ tree.namesBelow skipped base := by
  rw [namesThrough]
  cases hentry : tree.entryAt (base ++ [s]) with
  | none =>
    refine iff_of_false List.not_mem_nil ?_
    rintro ⟨rest, rfl, hbelow⟩
    exact h.entryAt_ne_none hwf (mem_namesBelow hbelow) hentry
  | some entry =>
    cases entry with
    | file content =>
      show names ∈ [[s]] ↔ _
      rw [List.mem_singleton]
      constructor
      · rintro rfl
        exact ⟨[], rfl, mem_namesBelow_iff.2 ⟨mem_fileLocations_of_entryAt hentry, by simp⟩⟩
      · rintro ⟨rest, rfl, hbelow⟩
        have hfile := mem_namesBelow hbelow
        rw [List.append_cons] at hfile
        rw [h.eq_nil_of_file hwf hentry hfile]
    | directory =>
      show names ∈ (if s = skipped then [] else (tree.namesBelow skipped (base ++ [s])).map (s :: ·)) ↔ _
      rw [List.mem_ite_nil_left, List.mem_map]
      constructor
      · rintro ⟨hs, rest, hrest, rfl⟩
        exact ⟨rest, rfl, (h.cons_mem_namesBelow hentry).2 ⟨hs, hrest⟩⟩
      · rintro ⟨rest, rfl, hbelow⟩
        obtain ⟨hs, hrest⟩ := (h.cons_mem_namesBelow hentry).1 hbelow
        exact ⟨hs, rest, hrest, rfl⟩

theorem sorted_namesBelow (h : tree.Distinct) (skipped : String) (base : Location) :
    (tree.namesBelow skipped base).Pairwise fun as bs => Location.le as bs = true ∧ as ≠ bs := by
  have hfiles : tree.fileLocations.Nodup := by
    refine List.pairwise_filterMap.2 ((List.pairwise_map.1 (List.nodup_cons.1 h).2).imp ?_)
    rintro ⟨place, _ | _⟩ ⟨place', _ | _⟩ hne loc hloc loc' hloc' <;> cases hloc <;> cases hloc'
    exact hne
  have hnodup : (tree.namesBelow skipped base).Nodup := by
    rw [namesBelow, (List.mergeSort_perm _ _).nodup_iff]
    refine List.Nodup.filter _ (List.Nodup.filterMap (fun place place' names hnames hnames' => ?_) hfiles)
    rw [below?_eq_some.1 hnames, below?_eq_some.1 hnames']
  exact (Location.pairwise_mergeSort _).and hnodup

theorem sorted_namesThrough (h : tree.Distinct) (skipped : String) (base : Location) (s : String) :
    (tree.namesThrough skipped base s).Pairwise fun as bs => Location.le as bs = true ∧ as ≠ bs := by
  unfold namesThrough
  split
  · exact .nil
  · exact List.pairwise_singleton _ _
  · split
    · exact .nil
    · refine List.pairwise_map.2 ((h.sorted_namesBelow skipped _).imp fun {as bs} hlt => ?_)
      refine ⟨?_, fun heq => hlt.2 (List.cons.inj heq).2⟩
      rw [Location.le, if_pos (beq_self_eq_true s)]
      exact hlt.1

/-- Sorting all that lies below a directory is the same as going through the names in it. -/
theorem namesBelow_eq (h : tree.Distinct) (hwf : tree.WellFormed)
    (hdir : tree.entryAt base = some .directory) :
    tree.namesBelow skipped base = (tree.childNames base).flatMap (tree.namesThrough skipped base) := by
  have hsorted : ((tree.childNames base).flatMap (tree.namesThrough skipped base)).Pairwise
      fun as bs => Location.le as bs = true ∧ as ≠ bs := by
    refine List.pairwise_flatMap.2 ⟨fun s _ => h.sorted_namesThrough skipped base s,
      (h.sorted_childNames base).imp fun {s t} hst as has bs hbs => ?_⟩
    obtain ⟨rest, rfl, -⟩ := (h.mem_namesThrough hwf).1 has
    obtain ⟨rest', rfl, -⟩ := (h.mem_namesThrough hwf).1 hbs
    have hne : s ≠ t := ne_of_lt hst
    refine ⟨?_, fun heq => hne (List.cons.inj heq).1⟩
    rw [Location.le, if_neg (by simpa using hne)]
    exact decide_eq_true (le_of_lt hst)
  have hmem : ∀ names, names ∈ tree.namesBelow skipped base ↔
      names ∈ (tree.childNames base).flatMap (tree.namesThrough skipped base) := by
    intro names
    rw [List.mem_flatMap]
    constructor
    · intro hnames
      have hfile := mem_namesBelow hnames
      obtain ⟨s, rest, rfl⟩ := List.exists_cons_of_ne_nil (h.ne_nil_of_directory hdir hfile)
      exact ⟨s, h.mem_childNames_iff.2 (h.entryAt_ne_none hwf hfile),
        (h.mem_namesThrough hwf).2 ⟨rest, rfl, hnames⟩⟩
    · rintro ⟨s, -, hnames⟩
      obtain ⟨rest, rfl, hbelow⟩ := (h.mem_namesThrough hwf).1 hnames
      exact hbelow
  have hperm := (List.perm_ext_iff_of_nodup ((h.sorted_namesBelow skipped base).imp And.right)
    (hsorted.imp And.right)).2 hmem
  exact hperm.eq_of_pairwise (fun _ _ _ _ hab hba => Location.le_antisymm hab.1 hba.1)
    (h.sorted_namesBelow skipped base) hsorted

/-! ## The walk to all files below -/

/-- A walk goes through the names of a directory and down into the directories among them. -/
theorem walk_of_below (h : tree.Distinct) (hwf : tree.WellFormed) (hpath : path.IsNormal)
    (hdir : tree.entryAt loc = some .directory) (hname : path.fileName ≠ some skipped)
    (hbelow : ∀ s, IsName s → s ≠ skipped → tree.entryAt (loc ++ [s]) = some .directory →
      tree.Walk skipped (path.child s) (loc ++ [s])
        ((tree.namesBelow skipped (loc ++ [s])).map fun names => names.foldl Path.child (path.child s))) :
    tree.Walk skipped path loc
      ((tree.namesBelow skipped loc).map fun names => names.foldl Path.child path) := by
  rw [h.namesBelow_eq hwf hdir, List.map_flatMap]
  refine .directory hdir hname (h.sorted_childNames loc) (fun s => h.mem_childNames_iff) fun s hs => ?_
  have hthere := h.mem_childNames_iff.1 hs
  obtain ⟨found, hfound⟩ := Option.ne_none_iff_exists'.1 hthere
  have hs' : IsName s := hwf.isName hfound s (by simp)
  rw [namesThrough]
  cases hentry : tree.entryAt (loc ++ [s]) with
  | none => exact absurd hentry hthere
  | some entry =>
    cases entry with
    | file content => exact .file hentry
    | directory =>
      by_cases hskipped : s = skipped
      · simp only [if_pos hskipped]
        exact .skipped hentry (by rw [hpath.fileName_child hs', hskipped])
      · simp only [if_neg hskipped, List.map_map]
        exact hbelow s hs' hskipped hentry

/-- No location is longer than all, so each walk comes to its end. -/
theorem walk_namesBelow (h : tree.Distinct) (hwf : tree.WellFormed) (depth : Nat)
    (hpath : path.IsNormal) (hdir : tree.entryAt loc = some .directory)
    (hname : path.fileName ≠ some skipped)
    (hdepth : ∀ entry ∈ tree.entries, entry.1.length ≤ loc.length + depth) :
    tree.Walk skipped path loc
      ((tree.namesBelow skipped loc).map fun names => names.foldl Path.child path) := by
  induction depth generalizing path loc with
  | zero =>
    refine h.walk_of_below hwf hpath hdir hname fun s _ _ hentry => ?_
    have hlength := hdepth _ (mem_entries_of_entryAt (by simp) hentry)
    simp at hlength
  | succ depth ih =>
    refine h.walk_of_below hwf hpath hdir hname fun s hs hskipped hentry => ?_
    refine ih (hpath.child hs) hentry (by rw [hpath.fileName_child hs]; simpa using hskipped) ?_
    intro entry hentry
    have hlength := hdepth entry hentry
    simp only [List.length_append, List.length_singleton]
    omega

/-- The files below a directory are those that a walk comes upon. -/
theorem walk_filesBelow (h : tree.Distinct) (hwf : tree.WellFormed) (hdir : dir.IsNormal)
    (hlocate : tree.locate dir = .ok (base, .directory)) (skipped : String) :
    tree.Walk skipped dir base (tree.filesBelow skipped dir) := by
  obtain ⟨-, hbase, hentry⟩ := (hwf.locate_iff hdir).1 hlocate
  rw [← hbase] at hentry
  rw [filesBelow_eq hlocate]
  by_cases hname : dir.fileName = some skipped
  · rw [if_pos (by simpa using hname)]
    exact .skipped hentry hname
  · rw [if_neg (by simpa using hname)]
    refine h.walk_namesBelow hwf (tree.entries.map fun entry => entry.1.length).sum hdir hentry hname
      fun entry hmem => ?_
    have hle : entry.1.length ≤ (tree.entries.map fun entry => entry.1.length).sum :=
      List.le_sum_of_mem (List.mem_map.2 ⟨entry, hmem, rfl⟩)
    omega

end Distinct

end FileTree

end ApiShapes
