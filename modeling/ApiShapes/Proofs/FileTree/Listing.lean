import ApiShapes.Proofs.FileTree.Changed

/-!
# Listing files after one of them was written

* `Location.le_trans`, `Location.le_total`, `Location.le_antisymm` : locations are in a total order, so
  that a sorted list is told by its items (`filter_mergeSort`);
* `FileTree.mem_filesBelow` : what is listed has a path in normal form and leads to a file;
* `FileTree.Writes.filesBelow_eq` : after a text was written, the same files are listed as before, apart
  from the written one.
-/

namespace ApiShapes

namespace Location

theorem le_trans {as bs cs : Location} (hab : le as bs = true) (hbc : le bs cs = true) :
    le as cs = true := by
  induction as generalizing bs cs with
  | nil => rw [le]
  | cons a as ih =>
    cases bs with
    | nil => cases hab
    | cons b bs =>
      cases cs with
      | nil => cases hbc
      | cons c cs =>
        rw [le] at hab hbc ⊢
        by_cases hfirst : a = b
        · subst hfirst
          by_cases hsecond : a = c
          · subst hsecond
            simpa using ih (by simpa using hab) (by simpa using hbc)
          · simpa [hsecond] using hbc
        · by_cases hsecond : b = c
          · subst hsecond
            simpa [hfirst] using hab
          · have hle : a ≤ b := by simpa [hfirst] using hab
            have hle' : b ≤ c := by simpa [hsecond] using hbc
            have hne : a ≠ c := by
              rintro rfl
              exact hfirst (String.le_antisymm hle hle')
            simpa [hne] using String.le_trans hle hle'

theorem le_total (as bs : Location) : (le as bs || le bs as) = true := by
  induction as generalizing bs with
  | nil => rw [le, Bool.true_or]
  | cons a as ih =>
    cases bs with
    | nil => simp [le]
    | cons b bs =>
      rw [le, le]
      by_cases hfirst : a = b
      · subst hfirst
        simpa using ih bs
      · simpa [hfirst, Ne.symm hfirst] using String.le_total a b

theorem le_antisymm {as bs : Location} (hab : le as bs = true) (hba : le bs as = true) :
    as = bs := by
  induction as generalizing bs with
  | nil =>
    cases bs with
    | nil => rfl
    | cons b bs => cases hba
  | cons a as ih =>
    cases bs with
    | nil => cases hab
    | cons b bs =>
      rw [le] at hab hba
      by_cases hfirst : a = b
      · subst hfirst
        rw [ih (by simpa using hab) (by simpa using hba)]
      · have hle : a ≤ b := by simpa [hfirst] using hab
        have hle' : b ≤ a := by simpa [Ne.symm hfirst] using hba
        exact (hfirst (String.le_antisymm hle hle')).elim

theorem pairwise_mergeSort (locs : List Location) :
    (locs.mergeSort le).Pairwise fun as bs => le as bs = true :=
  @List.pairwise_mergeSort _ le (fun _ _ _ => le_trans) le_total locs

/-- Some of a sorted list are sorted. -/
theorem filter_mergeSort (p : Location → Bool) (locs : List Location) :
    (locs.mergeSort le).filter p = (locs.filter p).mergeSort le := by
  refine List.Perm.eq_of_pairwise (fun _ _ _ _ => le_antisymm) ((pairwise_mergeSort locs).filter p)
    (pairwise_mergeSort _) ?_
  exact ((List.mergeSort_perm locs le).filter p).trans (List.mergeSort_perm _ le).symm

end Location

namespace FileTree

variable {tree tree' : FileTree} {base loc names place : Location} {dir path : Path}
  {s skipped : String}

theorem below?_eq_some : below? base loc = some names ↔ loc = base ++ names := by
  rw [below?, Option.ite_none_right_eq_some, Option.some.injEq]
  constructor
  · rintro ⟨hbelow, rfl⟩
    obtain ⟨names, rfl⟩ := List.isPrefixOf_iff_prefix.1 hbelow
    simp
  · rintro rfl
    simp

theorem mem_namesBelow_iff : names ∈ tree.namesBelow skipped base ↔
    base ++ names ∈ tree.fileLocations ∧ skipped ∉ names.dropLast := by
  have hmem : names ∈ tree.fileLocations.filterMap (below? base) ↔ base ++ names ∈ tree.fileLocations := by
    rw [List.mem_filterMap]
    constructor
    · rintro ⟨loc, hloc, hbelow⟩
      rwa [← below?_eq_some.1 hbelow]
    · exact fun hloc => ⟨_, hloc, below?_eq_some.2 rfl⟩
  rw [namesBelow, (List.mergeSort_perm _ Location.le).mem_iff, List.mem_filter, hmem]
  simp

theorem mem_namesBelow (h : names ∈ tree.namesBelow skipped base) :
    base ++ names ∈ tree.fileLocations :=
  (mem_namesBelow_iff.1 h).1

/-- Which names lead to a location below the base is told by the location. -/
theorem filter_filterMap_below? (p : Location → Bool) (locs : List Location) :
    (locs.filterMap (below? base)).filter (fun names => p (base ++ names)) =
      (locs.filter p).filterMap (below? base) := by
  rw [List.filter_filterMap, List.filterMap_filter]
  refine List.filterMap_congr fun loc _ => ?_
  cases hbelow : below? base loc with
  | none => simp
  | some names =>
    rw [below?_eq_some.1 hbelow]
    by_cases hp : p (base ++ names) = true <;> simp [hp]

theorem filter_namesBelow (tree : FileTree) (skipped : String) (base : Location)
    (p : Location → Bool) :
    (tree.namesBelow skipped base).filter (fun names => p (base ++ names)) =
      (((tree.fileLocations.filter p).filterMap (below? base)).filter
        (!·.dropLast.contains skipped)).mergeSort Location.le := by
  rw [namesBelow, Location.filter_mergeSort, List.filter_comm, filter_filterMap_below?]

/-! ## Files below a directory -/

theorem filesBelow_eq (h : tree.locate dir = .ok (base, .directory)) :
    tree.filesBelow skipped dir =
      if dir.fileName == some skipped then []
      else (tree.namesBelow skipped base).map fun names => names.foldl Path.child dir := by
  rw [filesBelow, h]

theorem WellFormed.isName_of_fileLocations (h : tree.WellFormed) (hloc : loc ∈ tree.fileLocations) :
    ∀ s ∈ loc, IsName s := by
  obtain ⟨content, hmem⟩ := mem_fileLocations.1 hloc
  exact h.names _ hmem

theorem WellFormed.foldl_child (h : tree.WellFormed) (hdir : dir.IsNormal)
    (hnames : dir.location ++ names ∈ tree.fileLocations) :
    (names.foldl Path.child dir).IsNormal ∧
      (names.foldl Path.child dir).location = dir.location ++ names :=
  hdir.foldl_child fun s hs =>
    h.isName_of_fileLocations hnames s (List.mem_append_right _ hs)

theorem WellFormed.locate_directory (h : tree.WellFormed) (hdir : dir.IsNormal)
    (hempty : dir ≠ .empty) (hentry : tree.entryAt dir.location = some .directory) :
    tree.locate dir = .ok (dir.location, .directory) :=
  (h.locate_iff hdir).2 ⟨hempty, rfl, hentry⟩

/-- What is listed has the directory's path with the names that lead to a file from there. -/
theorem WellFormed.exists_of_mem_filesBelow (h : tree.WellFormed) (hdir : dir.IsNormal)
    (hpath : path ∈ tree.filesBelow skipped dir) :
    ∃ names, path = names.foldl Path.child dir ∧ dir.location ++ names ∈ tree.fileLocations := by
  unfold filesBelow at hpath
  split at hpath
  · rename_i base hlocate
    obtain ⟨-, rfl, -⟩ := (h.locate_iff hdir).1 hlocate
    split at hpath
    · cases hpath
    · obtain ⟨names, hnames, rfl⟩ := List.mem_map.1 hpath
      exact ⟨names, rfl, mem_namesBelow hnames⟩
  · cases hpath

theorem WellFormed.mem_filesBelow (h : tree.WellFormed) (hdir : dir.IsNormal)
    (hpath : path ∈ tree.filesBelow skipped dir) :
    path.IsNormal ∧ path.location ∈ tree.fileLocations := by
  obtain ⟨names, rfl, hmem⟩ := h.exists_of_mem_filesBelow hdir hpath
  obtain ⟨hnormal, hlocation⟩ := h.foldl_child hdir hmem
  exact ⟨hnormal, hlocation ▸ hmem⟩

/-- Apart from one place, the files below a directory are told by the locations of files. -/
theorem WellFormed.filter_filesBelow (h : tree.WellFormed) (hdir : dir.IsNormal)
    (hlocate : tree.locate dir = .ok (dir.location, .directory)) (p : Location → Bool) :
    (tree.filesBelow skipped dir).filter (fun path => p path.location) =
      if dir.fileName == some skipped then []
      else ((((tree.fileLocations.filter p).filterMap (below? dir.location)).filter
        (!·.dropLast.contains skipped)).mergeSort Location.le).map fun names =>
          names.foldl Path.child dir := by
  rw [filesBelow_eq hlocate, ← filter_namesBelow]
  split
  · rfl
  · rw [List.filter_map]
    congr 1
    refine List.filter_congr fun names hnames => ?_
    rw [Function.comp_apply, (h.foldl_child hdir (mem_namesBelow hnames)).2]

/-- After a text was written the other files are listed as before. -/
theorem Writes.filesBelow_eq (h : Writes s place tree tree') (hwf : tree.WellFormed)
    (hdir : dir.IsNormal) (hentry : tree.entryAt dir.location = some .directory) :
    (tree'.filesBelow skipped dir).filter (·.location != place) =
      (tree.filesBelow skipped dir).filter (·.location != place) := by
  by_cases hempty : dir = .empty
  · have hnone : ∀ tree : FileTree, tree.filesBelow skipped dir = [] := by
      intro tree
      rw [hempty]
      rfl
    rw [hnone, hnone]
  · have hlocate := hwf.locate_directory hdir hempty hentry
    have hlocate' := (h.wellFormed hwf).locate_directory hdir hempty (h.directory _ hentry)
    rw [hwf.filter_filesBelow hdir hlocate (· != place),
      (h.wellFormed hwf).filter_filesBelow hdir hlocate' (· != place), h.locations]

end FileTree

end ApiShapes
