import ApiShapes.Proofs.Path.Location
import Mathlib.Data.List.Induction

/-!
# Looking up paths in normal form

* `FileTree.WellFormed` : everything stands in a directory, under a name;
* `locate_iff` : in such a tree a path in normal form leads to its location, if something stands there;
* `isFile_iff`, `textAt_iff`, `readText_iff` : the questions about a path, answered by the entry at its
  location;
* `textAt_of_same` : a text is found under the normal form of any path that leads to it;
* `FileTree.textOf?` : the text that a path leads to, if it leads to one.
-/

namespace ApiShapes.FileTree

/-- Every entry has a name and stands in a directory. -/
structure WellFormed (tree : FileTree) : Prop where
  names : ∀ entry ∈ tree.entries, ∀ s ∈ entry.1, IsName s
  parent : ∀ entry ∈ tree.entries, tree.entryAt entry.1.dropLast = some .directory

variable {tree : FileTree} {loc : Location} {entry : Entry} {path : Path}

theorem mem_entries_of_entryAt (hloc : loc ≠ []) (h : tree.entryAt loc = some entry) :
    (loc, entry) ∈ tree.entries := by
  obtain ⟨name, names, rfl⟩ := List.exists_cons_of_ne_nil hloc
  obtain ⟨before, after, hsplit, -⟩ := List.lookup_eq_some_iff.1 h
  rw [hsplit]
  simp

namespace WellFormed

theorem isName (h : tree.WellFormed) (hloc : tree.entryAt loc = some entry) :
    ∀ s ∈ loc, IsName s := by
  by_cases hnil : loc = []
  · simp [hnil]
  · exact h.names _ (mem_entries_of_entryAt hnil hloc)

theorem entryAt_dropLast (h : tree.WellFormed) (hloc : tree.entryAt loc = some entry) :
    tree.entryAt loc.dropLast = some .directory := by
  by_cases hnil : loc = []
  · rw [hnil]
    rfl
  · exact h.parent _ (mem_entries_of_entryAt hnil hloc)

/-- What stands anywhere has directories all the way up. -/
theorem entryAt_append (h : tree.WellFormed) (below : Location) :
    ∀ {entry : Entry}, below ≠ [] → tree.entryAt (loc ++ below) = some entry →
      tree.entryAt loc = some .directory := by
  induction below using List.reverseRecOn with
  | nil => exact fun hnil => (hnil rfl).elim
  | append_singleton below s ih =>
    intro entry _ hentry
    have hdir := h.entryAt_dropLast hentry
    rw [← List.append_assoc, List.dropLast_concat] at hdir
    by_cases hbelow : below = []
    · rwa [hbelow, List.append_nil] at hdir
    · exact ih hbelow hdir

end WellFormed

/-! ## Walking along names -/

theorem step_of_isName {s : String} (hs : IsName s) (loc : Location) : step loc s = loc ++ [s] := by
  obtain ⟨hempty, hdot, hup⟩ := isName_iff.1 hs
  unfold step
  split <;> simp_all

theorem eq_append_of_walk {names : List String} (hnames : ∀ s ∈ names, IsName s) :
    ∀ {loc loc' : Location}, tree.walk loc names = .ok loc' → loc' = loc ++ names := by
  induction names with
  | nil =>
    rintro loc _ ⟨⟩
    rw [List.append_nil]
  | cons s names ih =>
    intro loc loc' h
    rw [walk] at h
    split at h
    · rw [step_of_isName (hnames s List.mem_cons_self)] at h
      rw [ih (fun t ht => hnames t (List.mem_cons_of_mem s ht)) h, List.append_assoc]
      rfl
    · cases h
    · cases h

theorem WellFormed.walk_names (h : tree.WellFormed) :
    ∀ {names : List String} {loc : Location} {entry : Entry},
      tree.entryAt (loc ++ names) = some entry → tree.walk loc names = .ok (loc ++ names)
  | [], loc, entry, _ => by rw [List.append_nil, walk]
  | s :: names, loc, entry, hentry => by
    have hname : IsName s := h.isName hentry s (by simp)
    have hdir : tree.entryAt loc = some .directory := h.entryAt_append _ (by simp) hentry
    have hsplit : loc ++ s :: names = loc ++ [s] ++ names := by simp
    rw [walk, hdir]
    rw [hsplit] at hentry ⊢
    simp only [step_of_isName hname]
    exact h.walk_names hentry

/-- The root, and a `..` there, lead nowhere. -/
theorem walk_pieces (hpath : path.IsNormal) :
    tree.walk [] path.pieces = tree.walk [] path.location := by
  obtain ⟨lead, hlead, names, hnames, rfl⟩ := hpath.exists_names
  rw [Path.location_ofNames hlead hnames]
  simp only [Path.leads, List.mem_cons, List.not_mem_nil, or_false] at hlead
  rcases hlead with rfl | rfl | rfl | rfl
  · cases names with
    | nil => rfl
    | cons s names => simp [Path.ofParts, Path.map_piece_names, Part.piece, -List.map_map]
  · cases names with
    | nil => rfl
    | cons s names =>
      simp [Path.ofParts, Path.map_piece_names, Part.piece, walk, entryAt, step, -List.map_map]
  · simp [Path.ofParts, Path.map_piece_names, Part.piece, walk, entryAt, step, -List.map_map]
  · simp [Path.ofParts, Path.map_piece_names, Part.piece, walk, entryAt, step, -List.map_map]

/-! ## Questions about a path -/

theorem locate_eq_ok : tree.locate path = .ok (loc, entry) ↔
    path ≠ .empty ∧ tree.walk [] path.pieces = .ok loc ∧ tree.entryAt loc = some entry := by
  by_cases hempty : path = .empty
  · simp [locate, hempty, bind, Except.bind, throw, throwThe, MonadExceptOf.throw]
  · have hbeq : (path == Path.empty) = false := by simpa using hempty
    simp only [locate, hbeq, bind, Except.bind, pure, Except.pure, throw, throwThe,
      MonadExceptOf.throw, ne_eq, hempty, not_false_eq_true, true_and, Bool.false_eq_true, if_false]
    cases hwalk : tree.walk [] path.pieces with
    | error e => simp
    | ok place =>
      rw [Except.ok.injEq]
      constructor
      · intro h
        cases hentry : tree.entryAt place with
        | none => simp [hentry] at h
        | some found =>
          obtain ⟨rfl, rfl⟩ : place = loc ∧ found = entry := by simpa [hentry] using h
          exact ⟨rfl, hentry⟩
      · rintro ⟨rfl, h⟩
        simp [h]

/-- A path in normal form leads to its location, if something stands there. The empty path leads
nowhere. -/
theorem WellFormed.locate_iff (h : tree.WellFormed) (hpath : path.IsNormal) :
    tree.locate path = .ok (loc, entry) ↔
      path ≠ .empty ∧ loc = path.location ∧ tree.entryAt path.location = some entry := by
  rw [locate_eq_ok, walk_pieces hpath]
  refine and_congr_right fun _ => ?_
  constructor
  · rintro ⟨hwalk, hentry⟩
    obtain rfl := eq_append_of_walk (fun s => Path.isName_of_mem_location) hwalk
    exact ⟨rfl, hentry⟩
  · rintro ⟨rfl, hentry⟩
    exact ⟨h.walk_names hentry, hentry⟩

/-- The root is no file, be it that the empty path means it. -/
theorem ne_empty_of_file {content : Content}
    (h : tree.entryAt path.location = some (.file content)) : path ≠ .empty := by
  rintro rfl
  cases h

theorem WellFormed.isFile_iff (h : tree.WellFormed) (hpath : path.IsNormal) :
    tree.isFile path = true ↔ ∃ content, tree.entryAt path.location = some (.file content) := by
  constructor
  · intro hfile
    unfold isFile at hfile
    split at hfile
    · rename_i content hlocate
      exact ⟨content, ((h.locate_iff hpath).1 hlocate).2.2⟩
    · cases hfile
  · rintro ⟨content, hentry⟩
    rw [isFile, (h.locate_iff hpath).2 ⟨ne_empty_of_file hentry, rfl, hentry⟩]

/-- A text is found where a file is. -/
theorem locate_of_textAt {s : String} (h : tree.textAt path = .ok (loc, s)) :
    tree.locate path = .ok (loc, .file (.text s)) := by
  rw [textAt] at h
  cases hlocate : tree.locate path with
  | error e =>
    rw [hlocate] at h
    cases h
  | ok found =>
    obtain ⟨place, entry⟩ := found
    rw [hlocate] at h
    match entry with
    | .directory => cases h
    | .file (.binary _) => cases h
    | .file (.text t) =>
      cases h
      rfl

theorem WellFormed.textAt_iff (h : tree.WellFormed) (hpath : path.IsNormal) {s : String} :
    tree.textAt path = .ok (loc, s) ↔
      loc = path.location ∧ tree.entryAt path.location = some (.file (.text s)) := by
  constructor
  · intro htext
    exact ((h.locate_iff hpath).1 (locate_of_textAt htext)).2
  · rintro ⟨rfl, hentry⟩
    rw [textAt, (h.locate_iff hpath).2 ⟨ne_empty_of_file hentry, rfl, hentry⟩]
    rfl

theorem WellFormed.readText_iff (h : tree.WellFormed) (hpath : path.IsNormal) {s : String} :
    tree.readText path = .ok s ↔ tree.entryAt path.location = some (.file (.text s)) := by
  have hread : tree.readText path = .ok s ↔ ∃ loc, tree.textAt path = .ok (loc, s) := by
    rw [readText]
    cases htext : tree.textAt path with
    | error e => simp
    | ok found =>
      obtain ⟨loc, t⟩ := found
      simp
  simp [hread, h.textAt_iff hpath]

/-! ## Paths with the same parts -/

theorem step_of_ofPiece?_none {piece : String} (h : Part.ofPiece? piece = none) (loc : Location) :
    step loc piece = loc := by
  unfold Part.ofPiece? at h
  split at h <;> first | rfl | cases h

/-- Pieces that stand for no part lead nowhere. -/
theorem walk_parts {pieces : List String} : ∀ {loc loc' : Location}, tree.walk loc pieces = .ok loc' →
    tree.walk loc ((pieces.filterMap Part.ofPiece?).map Part.piece) = .ok loc' := by
  induction pieces with
  | nil => exact id
  | cons piece pieces ih =>
    intro loc loc' h
    rw [walk] at h
    split at h
    · rename_i hdir
      cases hpart : Part.ofPiece? piece with
      | none =>
        rw [step_of_ofPiece?_none hpart] at h
        rw [List.filterMap_cons_none hpart]
        exact ih h
      | some part =>
        rw [List.filterMap_cons_some hpart, List.map_cons, piece_of_ofPiece? hpart, walk, hdir]
        exact ih h
    · cases h
    · cases h

theorem walk_location {other : Path} (hpath : path.IsNormal) (hsame : path.parts = other.parts)
    (h : tree.walk [] other.pieces = .ok loc) : tree.walk [] path.location = .ok loc := by
  have hwalk := walk_parts h
  obtain ⟨lead, hlead, names, hnames, rfl⟩ := hpath.exists_names
  have hkept : (names.map Part.name).filter (fun part => part != .root && part != .here) =
      names.map Part.name :=
    List.filter_eq_self.2 fun part hpart => by
      obtain ⟨s, -, rfl⟩ := List.mem_map.1 hpart
      rfl
  rw [Path.filterMap_ofPiece?, ← hsame, Path.parts_ofNames hlead hnames, List.filter_append, hkept] at hwalk
  rw [Path.location_ofNames hlead hnames]
  simp only [Path.leads, List.mem_cons, List.not_mem_nil, or_false] at hlead
  -- at the root `..` leads nowhere else
  rcases hlead with rfl | rfl | rfl | rfl <;>
    simpa [Path.map_piece_names, Part.piece, walk, entryAt, step, -List.map_map] using hwalk

/-- A text is also found under the normal form of its path's parts. -/
theorem textAt_of_same {other : Path} {found : Location × String} (hpath : path.IsNormal)
    (hsame : path.same other = true) (h : tree.textAt other = .ok found) :
    tree.textAt path = .ok found := by
  obtain ⟨loc, s⟩ := found
  obtain ⟨-, hwalk, hentry⟩ := locate_eq_ok.1 (locate_of_textAt h)
  have hlocation := walk_location hpath (beq_iff_eq.1 hsame) hwalk
  obtain rfl := eq_append_of_walk (fun s => Path.isName_of_mem_location) hlocation
  have hlocate : tree.locate path = .ok ([] ++ path.location, .file (.text s)) :=
    locate_eq_ok.2 ⟨ne_empty_of_file hentry, by rw [walk_pieces hpath, hlocation], hentry⟩
  rw [textAt, hlocate]
  rfl

def textOf? (tree : FileTree) (path : Path) : Option String :=
  (tree.readText path).toOption

theorem textOf?_eq_some {s : String} : tree.textOf? path = some s ↔ tree.readText path = .ok s := by
  rw [textOf?]
  cases tree.readText path <;> simp [Except.toOption]

end ApiShapes.FileTree
