import ApiShapes.FileTree.Listing
import ApiShapes.Proofs.Path.Normal
import Mathlib.Data.List.Basic

/-!
# Where a path in normal form leads to

* `Path.location` : the names of a path; a path in normal form leads to the location of these names;
* `IsNormal.mem_spellings`, `location_of_mem_spellings` : the paths in normal form with one location;
* `IsNormal.foldl_child` : names below a path in normal form;
* `IsNormal.exists_parent` : the parent of a path in normal form leads to the location without its
  last name.
-/

namespace ApiShapes.Path

def location (p : Path) : Location :=
  p.parts.filterMap fun
    | .name s => some s
    | _ => none

/-- What a path in normal form may start with. -/
def leads : List (List Part) := [[], [.root], [.up], [.root, .up]]

variable {lead : List Part} {names : List String} {p : Path}

theorem settled_of_names (hlead : lead ∈ leads) (hnames : ∀ s ∈ names, IsName s) :
    Settled (lead ++ names.map Part.name).reverse := by
  have hsettled : Settled lead.reverse := by
    simp only [leads, List.mem_cons, List.not_mem_nil, or_false] at hlead
    rcases hlead with rfl | rfl | rfl | rfl
    · exact .nil
    · exact .root
    · exact .up
    · exact .rootUp
  have hmap : ∀ names : List String, (∀ s ∈ names, IsName s) →
      Settled (names.map Part.name ++ lead.reverse) := by
    intro names
    induction names with
    | nil => exact fun _ => hsettled
    | cons s names ih =>
      exact fun h => .name (h s List.mem_cons_self) (ih fun t ht => h t (List.mem_cons_of_mem s ht))
  rw [List.reverse_append, ← List.map_reverse]
  exact hmap _ fun s hs => hnames s (List.mem_reverse.1 hs)

theorem isNormal_ofNames (hlead : lead ∈ leads) (hnames : ∀ s ∈ names, IsName s) :
    (ofParts (lead ++ names.map Part.name)).IsNormal :=
  ⟨_, settled_of_names hlead hnames, by rw [List.reverse_reverse]⟩

theorem IsNormal.exists_names (h : p.IsNormal) : ∃ lead ∈ leads, ∃ names : List String,
    (∀ s ∈ names, IsName s) ∧ p = ofParts (lead ++ names.map Part.name) := by
  obtain ⟨done, hdone, rfl⟩ := h
  obtain ⟨lead, names, hlead, hnames, h⟩ := hdone.exists_names
  exact ⟨lead, hlead, names, hnames, by rw [h]⟩

theorem parts_ofNames (hlead : lead ∈ leads) (hnames : ∀ s ∈ names, IsName s) :
    (ofParts (lead ++ names.map Part.name)).parts = lead ++ names.map Part.name := by
  have h := (settled_of_names hlead hnames).parts_ofParts
  rwa [List.reverse_reverse] at h

theorem location_ofNames (hlead : lead ∈ leads) (hnames : ∀ s ∈ names, IsName s) :
    (ofParts (lead ++ names.map Part.name)).location = names := by
  rw [location, parts_ofNames hlead hnames, List.filterMap_append]
  have hnone : lead.filterMap (fun
      | .name s => some s
      | _ => none) = ([] : List String) := by
    simp only [leads, List.mem_cons, List.not_mem_nil, or_false] at hlead
    rcases hlead with rfl | rfl | rfl | rfl <;> rfl
  rw [hnone]
  simp [List.filterMap_map]

theorem isName_of_mem_location {s : String} (h : s ∈ p.location) : IsName s := by
  obtain ⟨part, hpart, hs⟩ := List.mem_filterMap.1 h
  split at hs
  · cases hs
    exact readable_parts p _ hpart
  · cases hs

/-- The pieces that stand for parts are the parts but for the root and a leading `.`. -/
theorem filterMap_ofPiece? (p : Path) :
    p.pieces.filterMap Part.ofPiece? = p.parts.filter fun part => part != .root && part != .here := by
  have hkept : (p.pieces.filterMap Part.ofPiece?).filter (fun part => part != .root && part != .here) =
      p.pieces.filterMap Part.ofPiece? := by
    refine List.filter_eq_self.2 fun part hpart => ?_
    obtain ⟨piece, -, hpiece⟩ := List.mem_filterMap.1 hpart
    unfold Part.ofPiece? at hpiece
    split at hpiece <;> cases hpiece <;> rfl
  rw [← hkept]
  unfold parts
  split <;> rfl

/-! ## Paths with one location -/

theorem IsNormal.mem_spellings (h : p.IsNormal) : p ∈ spellings p.location := by
  obtain ⟨lead, hlead, names, hnames, rfl⟩ := h.exists_names
  rw [location_ofNames hlead hnames]
  exact List.mem_map.2 ⟨lead, hlead, rfl⟩

theorem location_of_mem_spellings {loc : Location} (hloc : ∀ s ∈ loc, IsName s)
    (h : p ∈ spellings loc) : p.location = loc := by
  obtain ⟨lead, hlead, rfl⟩ := List.mem_map.1 h
  exact location_ofNames hlead hloc

/-! ## Children and parents -/

theorem isName_of_mem_concat {s : String} (hnames : ∀ t ∈ names, IsName t) (hs : IsName s) :
    ∀ t ∈ names ++ [s], IsName t := by
  intro t ht
  rcases List.mem_append.1 ht with ht | ht
  · exact hnames t ht
  · rwa [List.mem_singleton.1 ht]

theorem child_ofNames (hlead : lead ∈ leads) (hnames : ∀ s ∈ names, IsName s) (s : String) :
    (ofParts (lead ++ names.map Part.name)).child s = ofParts (lead ++ (names ++ [s]).map Part.name) := by
  have hchild := (settled_of_names hlead hnames).child_ofParts s
  rw [List.reverse_reverse] at hchild
  rw [hchild, List.map_append, List.append_assoc]
  rfl

theorem IsNormal.location_child (h : p.IsNormal) {s : String} (hs : IsName s) :
    (p.child s).location = p.location ++ [s] := by
  obtain ⟨lead, hlead, names, hnames, rfl⟩ := h.exists_names
  rw [child_ofNames hlead hnames, location_ofNames hlead (isName_of_mem_concat hnames hs),
    location_ofNames hlead hnames]

theorem IsNormal.foldl_child (h : p.IsNormal) {names : List String} (hnames : ∀ s ∈ names, IsName s) :
    (names.foldl Path.child p).IsNormal ∧ (names.foldl Path.child p).location = p.location ++ names := by
  induction names generalizing p with
  | nil => exact ⟨h, by simp⟩
  | cons s names ih =>
    have hs : IsName s := hnames s List.mem_cons_self
    obtain ⟨hnormal, hlocation⟩ := ih (h.child hs) fun t ht => hnames t (List.mem_cons_of_mem s ht)
    exact ⟨hnormal, by simp [hlocation, h.location_child hs]⟩

theorem dropIdle_append {pieces : List String} {s : String} (hs : Part.ofPiece? s ≠ none) :
    dropIdle (pieces ++ [s]) = pieces ++ [s] := by
  have hs : (Part.ofPiece? s).isNone = false := by
    rwa [Option.isNone_eq_false_iff, Option.isSome_iff_ne_none]
  simp [dropIdle, hs]

/-- Pieces that end in names have nothing idle at their end. -/
theorem dropIdle_names {pieces names : List String} (hpieces : dropIdle pieces = pieces)
    (hnames : ∀ s ∈ names, IsName s) : dropIdle (pieces ++ names) = pieces ++ names := by
  rcases List.eq_nil_or_concat' names with rfl | ⟨init, s, rfl⟩
  · rwa [List.append_nil]
  · have hs : IsName s := hnames s (by simp)
    rw [← List.append_assoc]
    exact dropIdle_append (by rw [hs]; simp)

theorem parent_ofNames {s : String} (hlead : lead ∈ leads) (hnames : ∀ t ∈ names, IsName t)
    (hs : IsName s) : (ofParts (lead ++ (names ++ [s]).map Part.name)).parent =
      some (ofParts (lead ++ names.map Part.name)) := by
  have hmore := isName_of_mem_concat hnames hs
  have hpieces : ofParts (lead ++ (names ++ [s]).map Part.name) =
      ⟨lead.map Part.piece ++ (names ++ [s])⟩ := by
    have hsplit : lead ++ (names ++ [s]).map Part.name = lead ++ names.map Part.name ++ [.name s] := by
      simp
    rw [hsplit, ofParts_append_name, List.map_append, map_piece_names, List.append_assoc]
  have hlast : (ofParts (lead ++ (names ++ [s]).map Part.name)).parts.getLast? =
      some (.name s) := by
    rw [parts_ofNames hlead hmore]
    simp
  have hidle : ∀ pieces, dropIdle (pieces ++ [s]) = pieces ++ [s] := fun pieces =>
    dropIdle_append (by rw [hs]; simp)
  have hkept : ∀ names : List String, (∀ t ∈ names, IsName t) → dropIdle names = names :=
    fun names hnames => dropIdle_names (rfl : dropIdle [] = []) hnames
  have hnil : ∀ pieces : List String, (pieces ++ [s] == []) = false := by simp
  unfold parent
  rw [hlast, hpieces]
  simp only [leads, List.mem_cons, List.not_mem_nil, or_false] at hlead
  rcases hlead with rfl | rfl | rfl | rfl
  · cases names with
    | nil => rfl
    | cons t names =>
      have ht : t ≠ "" := (isName_iff.1 (hnames t List.mem_cons_self)).1
      have hrest := hkept names fun u hu => hnames u (List.mem_cons_of_mem t hu)
      simp [hidle, hrest, ht, ofParts, Part.piece, map_piece_names, -List.map_map]
  · simp only [List.map_cons, List.map_nil, List.cons_append, List.nil_append, Part.piece, hidle,
      hnil, List.dropLast_concat, hkept names hnames]
    cases names <;> simp [ofParts, Part.piece, map_piece_names, -List.map_map]
  · simp only [List.map_cons, List.map_nil, List.cons_append, List.nil_append, Part.piece, hidle,
      hnil, List.dropLast_concat, hkept names hnames]
    simp [ofParts, Part.piece, map_piece_names, -List.map_map]
  · have hrest : dropIdle (".." :: (names ++ [s])) = ".." :: names ++ [s] := hidle (".." :: names)
    have hup : dropIdle (".." :: names) = ".." :: names :=
      dropIdle_names (rfl : dropIdle [".."] = [".."]) hnames
    simp only [List.map_cons, List.map_nil, List.cons_append, List.nil_append, Part.piece, hrest]
    simp only [← List.cons_append, List.dropLast_concat, hup, hnil]
    simp [ofParts, Part.piece, map_piece_names, -List.map_map]

/-- A path in normal form that leads anywhere but the root has a parent. -/
theorem IsNormal.exists_parent (h : p.IsNormal) (hp : p.location ≠ []) :
    ∃ dir, p.parent = some dir ∧ dir.IsNormal ∧ dir.location = p.location.dropLast := by
  obtain ⟨lead, hlead, names, hnames, rfl⟩ := h.exists_names
  rw [location_ofNames hlead hnames] at hp ⊢
  obtain ⟨init, s, rfl⟩ := (List.eq_nil_or_concat' names).resolve_left hp
  have hinit : ∀ t ∈ init, IsName t := fun t ht => hnames t (List.mem_append_left _ ht)
  refine ⟨_, parent_ofNames hlead hinit (hnames s (by simp)), isNormal_ofNames hlead hinit, ?_⟩
  rw [location_ofNames hlead hinit, List.dropLast_concat]

end ApiShapes.Path
