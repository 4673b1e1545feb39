import ApiShapes.FileTree.Edit
import ApiShapes.Proofs.FileTree.Located

/-!
# What a change leaves as it is

* `FileTree.AddsDirectories` : more directories, where nothing was before, and the same files;
* `addsDirectories_createDirectories` : that is all that creating directories does, be it that it fails;
* `FileTree.Writes` : a text stands at its place, the other files are the same, and the directories are
  still there;
* `writes_writeText` : so it is after a text is written;
* `Writes.isFile_eq`, `Writes.textAt_iff`, `Writes.textOf?_eq` : the other files are found as before.
-/

namespace ApiShapes

namespace FileTree

variable {tree tree' tree'' : FileTree} {loc place : Location} {entry : Entry}

/-! ## Places for new entries -/

theorem walk_append_empty {pieces : List String} : ∀ {loc dir : Location},
    tree.walk loc (pieces ++ [""]) = .ok dir →
      tree.walk loc pieces = .ok dir ∧ tree.entryAt dir = some .directory := by
  induction pieces with
  | nil =>
    intro loc dir h
    rw [List.nil_append, walk] at h
    split at h
    · rename_i hdir
      cases h
      exact ⟨rfl, hdir⟩
    · cases h
    · cases h
  | cons piece pieces ih =>
    intro loc dir h
    rw [List.cons_append, walk] at h
    rw [walk]
    split at h
    · rename_i hdir
      simpa [hdir] using ih h
    · cases h
    · cases h

theorem walk_append {pieces : List String} {piece : String} : ∀ {loc dir : Location},
    tree.walk loc pieces = .ok dir → tree.entryAt dir = some .directory →
      tree.walk loc (pieces ++ [piece]) = .ok (step dir piece) := by
  induction pieces with
  | nil =>
    rintro loc _ ⟨⟩ hdir
    rw [List.nil_append, walk, hdir]
    rfl
  | cons first pieces ih =>
    intro loc dir h hdir
    rw [walk] at h
    rw [List.cons_append, walk]
    split at h
    · rename_i hfirst
      simpa [hfirst] using ih h hdir
    · cases h
    · cases h

/-- A place for a new entry is a name in a directory, and the pieces lead to it. -/
theorem placeFor_eq_ok {pieces : List String} (h : tree.placeFor pieces = .ok loc) :
    tree.walk [] pieces = .ok loc ∧
      ∃ dir name, tree.entryAt dir = some .directory ∧ IsName name ∧ loc = dir ++ [name] := by
  unfold placeFor at h
  split at h
  · cases h
  · rename_i last hlast
    cases hwalk : tree.walk [] (pieces.dropLast ++ [""]) with
    | error e =>
      rw [hwalk] at h
      cases h
    | ok dir =>
      obtain ⟨hbefore, hdir⟩ := walk_append_empty hwalk
      have hpieces : tree.walk [] pieces = .ok (step dir last) := by
        rw [← List.dropLast_append_getLast? last hlast]
        exact walk_append hbefore hdir
      rw [hwalk] at h
      by_cases hname : IsName last
      · have hloc : loc = dir ++ [last] := by
          obtain ⟨hempty, hdot, hup⟩ := isName_iff.1 hname
          simp only [bind, Except.bind] at h
          exact (Except.ok.inj h).symm
        rw [step_of_isName hname] at hpieces
        exact ⟨hloc ▸ hpieces, dir, last, hdir, hname, hloc⟩
      · exfalso
        rw [isName_iff] at hname
        simp only [bind, Except.bind] at h
        split at h <;> simp_all [throw, throwThe, MonadExceptOf.throw]

/-! ## New entries -/

theorem entryAt_ne_none (h : (loc, entry) ∈ tree.entries) : tree.entryAt loc ≠ none := by
  cases loc with
  | nil => exact Option.some_ne_none _
  | cons name names =>
    intro hnone
    have hne := List.lookup_eq_none_iff.1 hnone _ h
    simp at hne

theorem mem_fileLocations :
    loc ∈ tree.fileLocations ↔ ∃ content, (loc, Entry.file content) ∈ tree.entries := by
  simp only [fileLocations, List.mem_filterMap]
  constructor
  · rintro ⟨⟨place, entry⟩, hmem, hloc⟩
    cases entry with
    | directory => cases hloc
    | file content =>
      cases hloc
      exact ⟨content, hmem⟩
  · rintro ⟨content, hmem⟩
    exact ⟨_, hmem, rfl⟩

theorem mem_fileLocations_of_entryAt {content : Content}
    (h : tree.entryAt loc = some (.file content)) : loc ∈ tree.fileLocations := by
  refine mem_fileLocations.2 ⟨content, mem_entries_of_entryAt ?_ h⟩
  rintro rfl
  cases h

theorem fileLocations_insert (tree : FileTree) (loc : Location) (entry : Entry) :
    (tree.insert loc entry).fileLocations =
      (match entry with
        | .file _ => [loc]
        | .directory => []) ++ tree.fileLocations.filter (· != loc) := by
  have hfilter : ∀ entries : List (Location × Entry),
      (FileTree.mk (entries.filter (·.1 != loc))).fileLocations =
        (FileTree.mk entries).fileLocations.filter (· != loc) := by
    intro entries
    induction entries with
    | nil => rfl
    | cons first entries ih =>
      obtain ⟨place, found⟩ := first
      by_cases hplace : place = loc <;> cases found <;>
        simpa [fileLocations, hplace] using ih
  rw [← hfilter]
  cases entry <;> rfl

namespace WellFormed

theorem insert (h : tree.WellFormed) {dir : Location} {name : String}
    (hdir : tree.entryAt dir = some .directory) (hname : IsName name)
    (hloc : tree.entryAt (dir ++ [name]) ≠ some .directory) :
    (tree.insert (dir ++ [name]) entry).WellFormed := by
  have hnil : dir ++ [name] ≠ [] := by simp
  have hkept : ∀ place, tree.entryAt place = some .directory →
      (tree.insert (dir ++ [name]) entry).entryAt place = some .directory := by
    intro place hplace
    rw [entryAt_insert tree hnil, if_neg, hplace]
    rintro rfl
    exact hloc hplace
  constructor
  · intro new hnew
    rcases List.mem_cons.1 hnew with rfl | hnew
    · intro s hs
      rcases List.mem_append.1 hs with hs | hs
      · exact h.isName hdir s hs
      · rwa [List.mem_singleton.1 hs]
    · exact h.names new (List.mem_of_mem_filter hnew)
  · intro new hnew
    rcases List.mem_cons.1 hnew with rfl | hnew
    · rw [List.dropLast_concat]
      exact hkept dir hdir
    · exact hkept _ (h.parent new (List.mem_of_mem_filter hnew))

end WellFormed

/-! ## More directories -/

/-- There are more directories, where nothing was, and the same files. -/
structure AddsDirectories (tree tree' : FileTree) : Prop where
  wellFormed : tree.WellFormed → tree'.WellFormed
  file : ∀ loc content,
    tree'.entryAt loc = some (.file content) ↔ tree.entryAt loc = some (.file content)
  directory : ∀ loc, tree.entryAt loc = some .directory → tree'.entryAt loc = some .directory
  locations : tree'.fileLocations = tree.fileLocations

theorem AddsDirectories.refl (tree : FileTree) : AddsDirectories tree tree :=
  ⟨id, fun _ _ => Iff.rfl, fun _ => id, rfl⟩

theorem AddsDirectories.trans (h : AddsDirectories tree tree')
    (h' : AddsDirectories tree' tree'') : AddsDirectories tree tree'' where
  wellFormed hwf := h'.wellFormed (h.wellFormed hwf)
  file loc content := (h'.file loc content).trans (h.file loc content)
  directory loc hloc := h'.directory loc (h.directory loc hloc)
  locations := h'.locations.trans h.locations

theorem addsDirectories_makeDirectory {path : Path} (h : tree.makeDirectory path = .ok tree') :
    AddsDirectories tree tree' := by
  unfold makeDirectory at h
  cases hplace : tree.placeFor (path.pieces.reverse.dropWhile (· == "")).reverse with
  | error e =>
    rw [hplace] at h
    cases h
  | ok loc =>
    obtain ⟨-, dir, name, hdir, hname, rfl⟩ := placeFor_eq_ok hplace
    rw [hplace] at h
    cases hentry : tree.entryAt (dir ++ [name]) with
    | some entry => simp [bind, Except.bind, hentry, throw, throwThe, MonadExceptOf.throw] at h
    | none =>
      obtain rfl : tree.insert (dir ++ [name]) .directory = tree' := by
        simpa [bind, Except.bind, hentry, pure, Except.pure] using h
      have hnil : dir ++ [name] ≠ [] := by simp
      refine ⟨fun hwf => hwf.insert hdir hname (by simp [hentry]), fun loc content => ?_,
        fun loc hloc => ?_, ?_⟩
      · rw [entryAt_insert tree hnil]
        split
        · simp_all
        · exact Iff.rfl
      · rw [entryAt_insert tree hnil, if_neg, hloc]
        rintro rfl
        simp [hentry] at hloc
      · rw [fileLocations_insert, List.nil_append, List.filter_eq_self]
        intro place hplace
        obtain ⟨content, hmem⟩ := mem_fileLocations.1 hplace
        have hne := entryAt_ne_none hmem
        rw [bne_iff_ne]
        rintro rfl
        exact hne hentry

end FileTree

/-! ## Running changes -/

namespace FileEdit
open FileTree

variable {ε α β : Type} {tree tree' tree'' : FileTree} {path : Path} {s : String}

theorem run_bind (edit : ExceptT ε (StateM FileTree) α) (next : α → ExceptT ε (StateM FileTree) β)
    (tree : FileTree) :
    (edit >>= next).run.run tree =
      match edit.run.run tree with
      | (.ok a, tree') => (next a).run.run tree'
      | (.error e, tree') => (.error e, tree') := by
  cases h : edit.run.run tree with
  | mk result tree' =>
    rw [ExceptT.run_bind, StateT.run_bind, h]
    cases result <;> rfl

theorem run_get (tree : FileTree) :
    (get : ExceptT ε (StateM FileTree) FileTree).run.run tree = (.ok tree, tree) := rfl

theorem run_change (f : FileTree → Except FileError FileTree) (tree : FileTree) :
    (change f).run.run tree =
      match f tree with
      | .ok tree' => (.ok (), tree')
      | .error cause => (.error cause, tree) := by
  simp only [change, run_bind, run_get]
  cases f tree <;> rfl

theorem ensureDirectory_run (path : Path) (tree : FileTree) :
    (ensureDirectory path).run.run tree =
      match tree.makeDirectory path with
      | .ok tree' => (.ok (), tree')
      | .error cause =>
        (if cause == .present && tree.isDirectory path then .ok () else .error cause, tree) := by
  simp only [ensureDirectory, run_bind, run_get]
  cases tree.makeDirectory path with
  | ok tree' => rfl
  | error cause =>
    simp only [run_bind, run_get]
    cases (cause == .present && tree.isDirectory path) <;> rfl

theorem addsDirectories_ensureDirectory (path : Path) (tree : FileTree) :
    AddsDirectories tree ((ensureDirectory path).run.run tree).2 := by
  rw [ensureDirectory_run]
  cases h : tree.makeDirectory path with
  | ok tree' => exact addsDirectories_makeDirectory h
  | error cause => exact .refl tree

theorem addsDirectories_createWithin (paths : List Path) (tree : FileTree) :
    AddsDirectories tree ((createWithin paths).run.run tree).2 := by
  induction paths generalizing tree with
  | nil => exact .refl tree
  | cons path above ih =>
    rw [createWithin]
    split
    · simp only [run_bind, run_get]
      split
      · have hfirst := ih tree
        rw [run_bind]
        rcases h : (createWithin above).run.run tree with ⟨_ | _, after⟩ <;> rw [h] at hfirst
        · exact hfirst
        · exact hfirst.trans (addsDirectories_ensureDirectory path after)
      · exact addsDirectories_ensureDirectory path tree
    · exact .refl tree

theorem addsDirectories_createDirectories (path : Path) (tree : FileTree) :
    AddsDirectories tree ((createDirectories path).run.run tree).2 :=
  addsDirectories_createWithin path.ancestors tree

end FileEdit

/-! ## A text in its place -/

/-- The text stands at the place. All other files are the same, and all directories are still there. -/
structure FileTree.Writes (s : String) (place : Location) (tree tree' : FileTree) : Prop where
  wellFormed : tree.WellFormed → tree'.WellFormed
  here : tree'.entryAt place = some (.file (.text s))
  elsewhere : ∀ loc, loc ≠ place → ∀ content,
    tree'.entryAt loc = some (.file content) ↔ tree.entryAt loc = some (.file content)
  directory : ∀ loc, tree.entryAt loc = some .directory → tree'.entryAt loc = some .directory
  locations : tree'.fileLocations.filter (· != place) = tree.fileLocations.filter (· != place)

namespace FileTree

theorem AddsDirectories.writes {s : String} (h : AddsDirectories tree tree')
    (h' : Writes s place tree' tree'') : Writes s place tree tree'' where
  wellFormed hwf := h'.wellFormed (h.wellFormed hwf)
  here := h'.here
  elsewhere loc hloc content := (h'.elsewhere loc hloc content).trans (h.file loc content)
  directory loc hloc := h'.directory loc (h.directory loc hloc)
  locations := by rw [h'.locations, h.locations]

theorem Writes.fileLocations_subset {s : String} (h : Writes s place tree tree') :
    tree.fileLocations ⊆ tree'.fileLocations := by
  intro loc hloc
  by_cases hplace : loc = place
  · exact hplace ▸ mem_fileLocations_of_entryAt h.here
  · have hmem : loc ∈ tree.fileLocations.filter (· != place) := by simp [hloc, hplace]
    rw [← h.locations] at hmem
    exact List.mem_of_mem_filter hmem

theorem Writes.filePaths_subset {s : String} (h : Writes s place tree tree') :
    tree.filePaths ⊆ tree'.filePaths := by
  intro path hpath
  obtain ⟨loc, hloc, hmem⟩ := List.mem_flatMap.1 hpath
  exact List.mem_flatMap.2 ⟨loc, h.fileLocations_subset hloc, hmem⟩

theorem writes_insert {s : String} {dir : Location} {name : String}
    (hdir : tree.entryAt dir = some .directory) (hname : IsName name)
    (hplace : tree.entryAt (dir ++ [name]) ≠ some .directory) :
    Writes s (dir ++ [name]) tree (tree.insert (dir ++ [name]) (.file (.text s))) := by
  have hnil : dir ++ [name] ≠ [] := by simp
  refine ⟨fun hwf => hwf.insert hdir hname hplace, ?_, fun loc hloc content => ?_,
    fun loc hloc => ?_, ?_⟩
  · rw [entryAt_insert tree hnil, if_pos rfl]
  · rw [entryAt_insert tree hnil, if_neg hloc]
  · rw [entryAt_insert tree hnil, if_neg, hloc]
    rintro rfl
    exact hplace hloc
  · rw [fileLocations_insert]
    simp

/-! ## Other files than the written one -/

namespace Writes

variable {path : Path} {s : String}

theorem isFile_eq (h : Writes s place tree tree') (hwf : tree.WellFormed) (hpath : path.IsNormal)
    (hplace : path.location ≠ place) : tree'.isFile path = tree.isFile path := by
  rw [Bool.eq_iff_iff, hwf.isFile_iff hpath, (h.wellFormed hwf).isFile_iff hpath]
  exact exists_congr fun content => h.elsewhere _ hplace content

theorem textAt_iff (h : Writes s place tree tree') (hwf : tree.WellFormed) (hpath : path.IsNormal)
    (hplace : path.location ≠ place) {source : String} :
    tree'.textAt path = .ok (loc, source) ↔ tree.textAt path = .ok (loc, source) := by
  rw [hwf.textAt_iff hpath, (h.wellFormed hwf).textAt_iff hpath, h.elsewhere _ hplace]

theorem textOf?_eq (h : Writes s place tree tree') (hwf : tree.WellFormed) (hpath : path.IsNormal)
    (hplace : path.location ≠ place) : tree'.textOf? path = tree.textOf? path := by
  ext source
  rw [textOf?_eq_some, textOf?_eq_some, hwf.readText_iff hpath,
    (h.wellFormed hwf).readText_iff hpath, h.elsewhere _ hplace]

end Writes

end FileTree

namespace FileEdit
open FileTree

variable {tree tree' : FileTree} {path : Path} {s : String}

/-- A text is written where its path leads to. -/
theorem writes_writeText (h : (writeText path s).run.run tree = (.ok (), tree'))
    (hpath : path.IsNormal) : Writes s path.location tree tree' := by
  rw [writeText, run_change] at h
  cases hplace : tree.placeFor path.pieces with
  | error cause =>
    rw [hplace] at h
    cases h
  | ok loc =>
    obtain ⟨hwalk, dir, name, hdir, hname, rfl⟩ := placeFor_eq_ok hplace
    rw [walk_pieces hpath] at hwalk
    have hloc := eq_append_of_walk (fun t => Path.isName_of_mem_location) hwalk
    rw [List.nil_append] at hloc
    rw [hplace] at h
    rw [← hloc]
    by_cases hentry : tree.entryAt (dir ++ [name]) = some .directory
    · simp only [bind, Except.bind, hentry, throw, throwThe, MonadExceptOf.throw] at h
      cases h
    · simp only [bind, Except.bind] at h
      cases h
      exact writes_insert hdir hname hentry

end FileEdit

end ApiShapes
