import ApiShapes.Proofs.Path.Location
import ApiShapes.Proofs.Text.Pieces

/-!
# How far a path climbs

* `Part.reduce` : parts as a walk that starts anywhere: how often it climbs above its start, and the
  names that it has gone down in the end;
* `Path.climb`, `Path.descent` : the two of a path;
* `Path.normalParts_eq` : normalization keeps the names, but of the climbs only whether they are odd;
* `Path.reduce_append` : one walk after the other;
* `Path.normal_eq_iff`, `Path.location_normal` : which paths have one normal form, and where it leads to;
* `Path.join_normal_iff` : when a path means the same below a directory before and after it was
  normalized;
* `Path.normal_laws` : the laws of normalization together.
-/

namespace ApiShapes

namespace Part

/-- One part more: a name is gone down, a `..` goes up the last name or else climbs. -/
def reduceStep : Nat × List String → Part → Nat × List String
  | (ups, down), .name s => (ups, s :: down)
  | (ups, []), .up => (ups + 1, [])
  | (ups, _ :: down), .up => (ups, down)
  | (ups, down), .here => (ups, down)
  | (ups, down), .root => (ups, down)

/-- How often parts climb above their start, and the names they have gone down in the end, the last one
first. -/
def reduce (ps : List Part) : Nat × List String :=
  ps.foldl reduceStep (0, [])

end Part

namespace Path
open ApiShapes.Part

/-- The number of `..` in a path that take back no name of its own. -/
def climb (p : Path) : Nat := (reduce p.parts).1

/-- The names of a path that no `..` takes back. -/
def descent (p : Path) : List String := (reduce p.parts).2.reverse

variable {ps qs : List Part} {base down : List Part} {p q dir : Path}

/-! ## Walks one after the other -/

/-- A walk seen from where another one has led. -/
def after (start walk : Nat × List String) : Nat × List String :=
  (start.1 + (walk.1 - start.2.length), walk.2 ++ start.2.drop walk.1)

theorem reduceStep_after (start walk : Nat × List String) (part : Part) :
    reduceStep (after start walk) part = after start (reduceStep walk part) := by
  obtain ⟨ups, names⟩ := walk
  cases part with
  | root => rfl
  | here => rfl
  | name s => rfl
  | up =>
    cases names with
    | cons s names => rfl
    | nil =>
      by_cases hlt : ups < start.2.length
      · -- a name of the first walk is left to go up
        obtain ⟨s, hs⟩ : ∃ s, start.2.drop ups = s :: start.2.drop (ups + 1) :=
          ⟨_, List.drop_eq_getElem_cons hlt⟩
        have hclimbs : ups - start.2.length = 0 ∧ ups + 1 - start.2.length = 0 := by omega
        simp only [after, List.nil_append, hs, reduceStep, hclimbs]
      · have hspent : start.2.drop ups = [] ∧ start.2.drop (ups + 1) = [] := by
          simp only [List.drop_eq_nil_iff]
          omega
        have hclimbs : ups + 1 - start.2.length = ups - start.2.length + 1 := by omega
        simp only [after, List.nil_append, hspent, reduceStep, hclimbs, Nat.add_assoc]

theorem foldl_reduceStep (start : Nat × List String) (ps : List Part) :
    ps.foldl reduceStep start = after start (reduce ps) := by
  suffices h : ∀ walk, ps.foldl reduceStep (after start walk) =
      after start (ps.foldl reduceStep walk) by
    have hstart : after start (0, []) = start := by simp [after]
    rw [← hstart, h, hstart, ← reduce]
  induction ps with
  | nil => exact fun _ => rfl
  | cons part ps ih =>
    intro walk
    rw [List.foldl_cons, List.foldl_cons, reduceStep_after, ih]

theorem reduce_append (ps qs : List Part) : reduce (ps ++ qs) = after (reduce ps) (reduce qs) := by
  rw [reduce, List.foldl_append, foldl_reduceStep, ← reduce]

theorem reduce_names (names : List String) : reduce (names.map .name) = (0, names.reverse) := by
  induction names with
  | nil => rfl
  | cons s names ih =>
    have hsplit : (s :: names).map Part.name = [.name s] ++ names.map .name := rfl
    rw [hsplit, reduce_append, ih]
    simp [reduce, reduceStep, after]

/-- Neither the root nor a `.` goes anywhere. -/
theorem reduce_filter (ps : List Part) :
    reduce (ps.filter fun part => part != .root && part != .here) = reduce ps := by
  suffices h : ∀ start, (ps.filter fun part => part != .root && part != .here).foldl reduceStep start =
      ps.foldl reduceStep start from h _
  induction ps with
  | nil => exact fun _ => rfl
  | cons part ps ih =>
    intro start
    cases part with
    | root => exact ih start
    | here => exact ih start
    | name s => exact ih _
    | up => exact ih _

theorem reduce_filterMap (p : Path) : reduce (p.pieces.filterMap ofPiece?) = reduce p.parts := by
  rw [filterMap_ofPiece?, reduce_filter]

/-! ## What normalization keeps -/

def start (p : Path) : List Part := if p.isAbsolute then [.root] else []

/-- A walk as normalization takes it in, the last part first: of the climbs it writes one if they are
odd in number. -/
def taken (base : List Part) (walk : Nat × List String) : List Part :=
  walk.2.map .name ++ ((if walk.1 % 2 = 1 then [.up] else []) ++ base)

theorem normalStep_taken (hbase : base = [] ∨ base = [.root]) (walk : Nat × List String) {part : Part}
    (hpart : part ≠ .root) : normalStep (taken base walk) part = taken base (reduceStep walk part) := by
  obtain ⟨ups, names⟩ := walk
  cases part with
  | root => exact (hpart rfl).elim
  | here => rfl
  | name s => rfl
  | up =>
    cases names with
    | cons s names => rfl
    | nil =>
      -- the `..` that was kept is taken back like a name
      rcases Nat.mod_two_eq_zero_or_one ups with hups | hups <;>
        rcases hbase with rfl | rfl <;>
          simp [taken, reduceStep, normalStep, hups, Nat.add_mod]

theorem foldl_normalStep (hbase : base = [] ∨ base = [.root]) (hps : .root ∉ ps) :
    ps.foldl normalStep base = taken base (reduce ps) := by
  suffices h : ∀ walk, ps.foldl normalStep (taken base walk) =
      taken base (ps.foldl reduceStep walk) from h (0, [])
  induction ps with
  | nil => exact fun _ => rfl
  | cons part ps ih =>
    intro walk
    rw [List.mem_cons, not_or] at hps
    rw [List.foldl_cons, List.foldl_cons, normalStep_taken hbase walk (Ne.symm hps.1), ih hps.2]

theorem root_notMem_filterMap (pieces : List String) : Part.root ∉ pieces.filterMap ofPiece? := by
  intro h
  obtain ⟨piece, -, hpiece⟩ := List.mem_filterMap.1 h
  unfold ofPiece? at hpiece
  split at hpiece <;> cases hpiece

/-- Only the start of a path can be the root. -/
theorem parts_eq_start (p : Path) : ∃ ps, .root ∉ ps ∧ p.parts = p.start ++ ps := by
  unfold parts start
  split
  · exact ⟨_, root_notMem_filterMap _, rfl⟩
  · rename_i ps
    refine ⟨_, ?_, rfl⟩
    rw [List.mem_cons, not_or]
    exact ⟨Part.noConfusion, root_notMem_filterMap ps⟩
  · rename_i ps hroot _
    have hrelative : isAbsolute ⟨ps⟩ = false := by
      unfold isAbsolute
      split
      · rename_i heq
        exact (hroot _ _ (congrArg pieces heq)).elim
      · rfl
    exact ⟨_, root_notMem_filterMap ps, by rw [hrelative]; rfl⟩

theorem isAbsolute_iff : p.isAbsolute = true ↔ .root ∈ p.parts := by
  obtain ⟨ps, hps, hparts⟩ := p.parts_eq_start
  rw [hparts, start]
  cases p.isAbsolute <;> simp [hps]

theorem reduce_start_append (p : Path) (ps : List Part) : reduce (p.start ++ ps) = reduce ps := by
  unfold start
  split <;> rfl

theorem start_cases (p : Path) : p.start = [] ∨ p.start = [.root] := by
  unfold start
  split
  · exact .inr rfl
  · exact .inl rfl

/-- Normalization keeps the start, the names, and whether a path climbs an odd number of times. -/
theorem normalParts_eq (p : Path) : normalParts p.parts = (taken p.start (reduce p.parts)).reverse := by
  obtain ⟨ps, hps, hparts⟩ := p.parts_eq_start
  have hstart : p.start.foldl normalStep [] = p.start := by
    rcases p.start_cases with h | h <;> rw [h] <;> rfl
  rw [normalParts, hparts, List.foldl_append, hstart, foldl_normalStep p.start_cases hps,
    reduce_start_append]

theorem parts_normal (p : Path) : p.normal.parts = (taken p.start (reduce p.parts)).reverse := by
  have h := (Settled.nil.foldl (readable_parts p)).parts_ofParts
  rw [normal, ← normalParts_eq]
  exact h

theorem isAbsolute_normal (p : Path) : p.normal.isAbsolute = p.isAbsolute := by
  rw [Bool.eq_iff_iff, isAbsolute_iff, parts_normal, taken, start]
  cases p.isAbsolute <;> split <;> simp

theorem reduce_normal (p : Path) : reduce p.normal.parts = (p.climb % 2, (reduce p.parts).2) := by
  have hlead : reduce (p.start.reverse ++ (if p.climb % 2 = 1 then [.up] else [])) = (p.climb % 2, []) := by
    rcases p.start_cases with h | h <;> rcases Nat.mod_two_eq_zero_or_one p.climb with hclimb | hclimb <;>
      rw [h, hclimb] <;> rfl
  have hparts : p.normal.parts = p.start.reverse ++ (if p.climb % 2 = 1 then [.up] else []) ++
      (reduce p.parts).2.reverse.map .name := by
    rw [parts_normal, taken, ← climb]
    split <;> simp
  rw [hparts, reduce_append, hlead, reduce_names]
  simp [after]

/-- Two paths have one normal form if they start at one place, go down the same names, and climb an odd
number of times both or neither. -/
theorem normal_eq_iff : p.normal = q.normal ↔
    p.isAbsolute = q.isAbsolute ∧ p.climb % 2 = q.climb % 2 ∧ p.descent = q.descent := by
  constructor
  · intro h
    have hreduce : reduce p.normal.parts = reduce q.normal.parts := by rw [h]
    rw [reduce_normal, reduce_normal, Prod.mk.injEq] at hreduce
    exact ⟨by rw [← isAbsolute_normal, h, isAbsolute_normal], hreduce.1,
      congrArg List.reverse hreduce.2⟩
  · rintro ⟨hstart, hclimb, hdescent⟩
    have hnames : (reduce p.parts).2 = (reduce q.parts).2 := List.reverse_injective hdescent
    rw [normal, normal, normalParts_eq, normalParts_eq, taken, taken, start, start, hstart, hnames,
      ← climb, ← climb, hclimb]

/-! ## Paths below a directory -/

theorem parts_root {pieces : List String} (hne : pieces ≠ []) :
    parts ⟨"" :: pieces⟩ = .root :: pieces.filterMap ofPiece? := by
  cases pieces with
  | nil => exact (hne rfl).elim
  | cons piece pieces => rfl

theorem isAbsolute_root {pieces : List String} (hne : pieces ≠ []) :
    isAbsolute ⟨"" :: pieces⟩ = true := by
  cases pieces with
  | nil => exact (hne rfl).elim
  | cons piece pieces => rfl

theorem exists_pieces (hdir : dir.isAbsolute = true) :
    ∃ pieces, pieces ≠ [] ∧ dir = ⟨"" :: pieces⟩ := by
  unfold isAbsolute at hdir
  split at hdir
  · exact ⟨_, List.cons_ne_nil _ _, rfl⟩
  · cases hdir

theorem join_relative (hdir : dir.isAbsolute = true) (hq : q.isAbsolute = false) (hne : q.pieces ≠ []) :
    ∃ pieces, pieces ≠ [] ∧ dir.join q = ⟨"" :: pieces⟩ ∧ pieces.filterMap ofPiece? =
      dir.pieces.filterMap ofPiece? ++ q.pieces.filterMap ofPiece? := by
  obtain ⟨pieces, hpieces, rfl⟩ := exists_pieces hdir
  have hempty : ((⟨"" :: pieces⟩ : Path) == empty) = false := by
    rw [beq_eq_false_iff_ne]
    intro h
    exact hpieces (List.cons.inj (congrArg Path.pieces h)).2
  rw [join, hq, hempty, Bool.false_or, if_neg Bool.false_ne_true]
  split
  · -- the slash at the end of the directory's path stands for the one between the two
    rename_i hslash
    obtain ⟨init, hinit⟩ := List.getLast?_eq_some_iff.1 (beq_iff_eq.1 hslash)
    cases init with
    | nil => exact (hpieces (List.cons.inj hinit).2).elim
    | cons s init =>
      obtain ⟨rfl, rfl⟩ := List.cons.inj hinit
      refine ⟨init ++ q.pieces, by simp [hne], ?_, ?_⟩
      · rw [hinit, List.dropLast_concat, List.cons_append]
      · simp [ofPiece?]
  · exact ⟨pieces ++ q.pieces, by simp [hne], rfl, by simp [ofPiece?]⟩

/-- Below a directory a path first takes back names of the directory, and climbs only after these. -/
theorem reduce_join (hdir : dir.isAbsolute = true) (hq : q.isAbsolute = false) (hne : q.pieces ≠ []) :
    (dir.join q).isAbsolute = true ∧
      reduce (dir.join q).parts = after (reduce dir.parts) (reduce q.parts) := by
  obtain ⟨pieces, hpieces, hjoin, hread⟩ := join_relative hdir hq hne
  refine ⟨hjoin ▸ isAbsolute_root hpieces, ?_⟩
  have hroot : reduce (dir.join q).parts = reduce (pieces.filterMap ofPiece?) := by
    rw [hjoin, parts_root hpieces]
    rfl
  rw [hroot, hread, reduce_append, reduce_filterMap, reduce_filterMap]

theorem join_absolute (hq : q.isAbsolute = true) : dir.join q = q := by
  rw [join, hq, Bool.true_or, if_pos rfl]

/-- The pieces of a text are at least one. -/
theorem ofString_pieces_ne (s : String) : (ofString s).pieces ≠ [] := by
  intro h
  exact Text.pieces_ne_nil _ _ (List.map_eq_nil_iff.1 h)

theorem normal_pieces_ne (p : Path) : p.normal.pieces ≠ [] := by
  unfold normal ofParts
  split
  · exact List.cons_ne_nil _ _
  · exact List.cons_ne_nil _ _
  · rename_i h _
    exact fun hnil => h (List.map_eq_nil_iff.1 hnil)

/-- A directory's path without `..` only goes down. -/
theorem reduce_of_up_notMem (hdir : .up ∉ dir.parts) : reduce dir.parts = (0, dir.location.reverse) := by
  have hkept : dir.parts.filter (fun part => part != .root && part != .here) =
      dir.location.map .name := by
    rw [location]
    generalize dir.parts = ps at hdir
    induction ps with
    | nil => rfl
    | cons part ps ih =>
      rw [List.mem_cons, not_or] at hdir
      cases part with
      | up => exact (hdir.1 rfl).elim
      | root => exact ih hdir.2
      | here => exact ih hdir.2
      | name s => exact congrArg (Part.name s :: ·) (ih hdir.2)
  rw [← reduce_filter, hkept, reduce_names]

/-- A path means the same below a directory before and after it was normalized, if it climbs at most once
or if the directory has too few names to tell. -/
theorem join_normal_iff (hdir : dir.isAbsolute = true) (hplain : .up ∉ dir.parts) (hp : p.pieces ≠ []) :
    (dir.join p.normal).normal = (dir.join p).normal ↔
      p.isAbsolute = true ∨ p.climb ≤ 1 ∨ dir.location = [] ∨
        dir.location.length = 1 ∧ p.climb % 2 = 1 := by
  cases habsolute : p.isAbsolute with
  | true =>
    rw [join_absolute habsolute, join_absolute (habsolute ▸ isAbsolute_normal p), normal_normal]
    simp
  | false =>
    have hnormal : p.normal.isAbsolute = false := habsolute ▸ isAbsolute_normal p
    obtain ⟨hroot, hwalk⟩ := reduce_join hdir habsolute hp
    obtain ⟨hroot', hwalk'⟩ := reduce_join hdir hnormal p.normal_pieces_ne
    rw [reduce_of_up_notMem hplain] at hwalk hwalk'
    rw [reduce_normal] at hwalk'
    have hclimb : (reduce p.parts).1 = p.climb := rfl
    rw [normal_eq_iff, hroot, hroot', climb, climb, descent, descent, hwalk, hwalk']
    simp only [after, List.length_reverse, Nat.zero_add, true_and, Bool.false_eq_true, false_or,
      List.reverse_inj, List.append_cancel_left_eq, hclimb]
    constructor
    · rintro ⟨hodd, hnames⟩
      have hlength := congrArg List.length hnames
      simp only [List.length_drop, List.length_reverse] at hlength
      rw [← List.length_eq_zero_iff]
      omega
    · intro h
      rw [← List.length_eq_zero_iff] at h
      by_cases honce : p.climb ≤ 1
      · have hsame : p.climb % 2 = p.climb := by omega
        rw [hsame]
        exact ⟨rfl, rfl⟩
      · have hspent : ∀ n, dir.location.length ≤ n → dir.location.reverse.drop n = [] := fun n hn => by
          rw [List.drop_eq_nil_iff, List.length_reverse]
          exact hn
        rw [hspent _ (by omega), hspent _ (by omega)]
        exact ⟨by omega, rfl⟩

/-- A path in normal form leads to the names that its path goes down. -/
theorem location_normal (p : Path) : p.normal.location = p.descent := by
  have hup : (if (reduce p.parts).1 % 2 = 1 then [Part.up] else []) = [] ∨
      (if (reduce p.parts).1 % 2 = 1 then [Part.up] else []) = [.up] := by
    split <;> simp
  rw [location, parts_normal, taken, descent]
  rcases p.start_cases with hstart | hstart <;> rcases hup with hup | hup <;> rw [hstart, hup] <;>
    simp [List.filterMap_map]

/-- A path below a directory takes back as many names of the directory as it climbs. -/
theorem location_join_normal (hdir : dir.isAbsolute = true) (hplain : .up ∉ dir.parts)
    (hp : p.pieces ≠ []) (hrelative : p.isAbsolute = false) :
    (dir.join p).normal.location =
      dir.location.take (dir.location.length - p.climb) ++ p.descent := by
  have hwalk := (reduce_join hdir hrelative hp).2
  rw [reduce_of_up_notMem hplain] at hwalk
  rw [location_normal, descent, hwalk, after, List.reverse_append, List.drop_reverse,
    List.reverse_reverse]
  rfl

theorem here_notMem_normal (p : Path) : .here ∉ p.normal.parts := by
  rw [parts_normal, taken, start]
  split <;> split <;> simp

theorem up_mem_normal_iff : .up ∈ p.normal.parts ↔ p.climb % 2 = 1 := by
  rw [parts_normal, taken, start, ← climb]
  split <;> split <;> simp_all

/-- **Normalization counts climbs by twos.** A path in normal form stays as it is. For a path that is seen
from a directory whose own path is absolute and has no `..`: once it is joined, normalization leads to where
the path means, however often it climbs. But normalized on its own it means the same below the directory
only if it climbs at most once, or if the directory has too few names to tell: of two `..` at its start the
second takes back the first. The normal form of an absolute path has no `.`, and no `..` exactly if the path
climbs above the root an even number of times. -/
theorem normal_laws (s : String) :
    (ofString s).normal.normal = (ofString s).normal ∧
      (∀ dir : Path, dir.isAbsolute = true → .up ∉ dir.parts →
        ((ofString s).isAbsolute = false → (dir.join (ofString s)).normal.location =
          dir.location.take (dir.location.length - (ofString s).climb) ++ (ofString s).descent) ∧
        ((dir.join (ofString s).normal).normal = (dir.join (ofString s)).normal ↔
          (ofString s).isAbsolute = true ∨ (ofString s).climb ≤ 1 ∨ dir.location = [] ∨
            dir.location.length = 1 ∧ (ofString s).climb % 2 = 1)) ∧
      ((ofString s).isAbsolute = true → .here ∉ (ofString s).normal.parts ∧
        (.up ∉ (ofString s).normal.parts ↔ (ofString s).climb % 2 = 0)) := by
  refine ⟨normal_normal _, fun dir hdir hplain => ⟨?_, ?_⟩, fun _ => ⟨here_notMem_normal _, ?_⟩⟩
  · exact location_join_normal hdir hplain (ofString_pieces_ne s)
  · exact join_normal_iff hdir hplain (ofString_pieces_ne s)
  · rw [up_mem_normal_iff]
    omega

/-- Two levels up are lost below `/a/b`, and one above the root is kept. -/
theorem normal_laws_twoUp :
    ((ofString "/a/b").isAbsolute = true ∧ .up ∉ (ofString "/a/b").parts ∧
      ((ofString "/a/b").join (ofString "../../x").normal).normal ≠
        ((ofString "/a/b").join (ofString "../../x")).normal) ∧
      (ofString "/../x").isAbsolute = true ∧ .up ∈ (ofString "/../x").normal.parts := by
  have hdir : (ofString "/a/b").isAbsolute = true ∧ .up ∉ (ofString "/a/b").parts := by
    decide +kernel
  have hroot : (ofString "/../x").isAbsolute = true := by decide +kernel
  refine ⟨⟨hdir.1, hdir.2, fun hsame => ?_⟩, hroot, ?_⟩
  · have hfew := (((normal_laws "../../x").2.1 _ hdir.1 hdir.2).2).1 hsame
    revert hfew
    decide +kernel
  · by_contra hup
    have heven := (((normal_laws "/../x").2.2 hroot).2).1 hup
    revert heven
    decide +kernel

end Path

end ApiShapes
