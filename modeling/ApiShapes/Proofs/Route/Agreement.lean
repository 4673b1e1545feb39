import ApiShapes.Proofs.Path.Climbing
import ApiShapes.Proofs.Route.Key
import ApiShapes.Proofs.Route.Segment

/-!
# Segments, keys and files tell the same parameters

* `RouteParam.bareSegment_brackets` : a segment without its brackets is the name of its parameter;
* `RouteParam.brackets_injective` : no two parameters have one segment;
* `Route.params_eq` : a route's parameters can be read off its key;
* `Route.ofFile_index` : a file and the index file of a directory of its name have the same route;
* `Route.brackets_agree` : all of these.
-/

namespace ApiShapes

open Text

/-! ## Brackets -/

namespace RouteParam

variable {param other : RouteParam}

theorem ofSegment?_brackets (h : param.IsSound) : ofSegment? param.brackets = some param :=
  ofSegment?_eq_some.2 ⟨h, rfl⟩

theorem brackets_injective (h : param.IsSound) (hother : other.IsSound)
    (heq : param.brackets = other.brackets) : param = other := by
  have hsome := ofSegment?_brackets h
  rw [heq, ofSegment?_brackets hother] at hsome
  exact (Option.some.inj hsome).symm

/-- Nothing stands between brackets of two characters or more, where the second one is another. -/
theorem between_eq_none {second c : Char} {start finish cs : List Char} (hc : c ≠ second) :
    between ('[' :: second :: start) finish ('[' :: c :: cs) = none := by
  rw [Option.eq_none_iff_forall_ne_some]
  intro inner h
  have heq := between_eq_some.1 h
  simp only [List.cons_append, List.cons.injEq] at heq
  exact hc heq.2.1

theorem bareSegment_one {name : String} (hname : IsParamName name) :
    bareSegment ("[" ++ name ++ "]") = name := by
  obtain ⟨c, cs, hcs, hc⟩ := hname.exists_cons
  have hne : c ≠ '[' ∧ c ≠ '.' := by
    constructor
    all_goals
      rintro rfl
      revert hc
      decide
  have hchars : ("[" ++ name ++ "]").toList = '[' :: c :: (cs ++ [']']) := by
    simp [hcs]
  have hone : between ['['] [']'] ('[' :: c :: (cs ++ [']'])) = some (c :: cs) :=
    between_append ['['] [']'] (c :: cs)
  simp only [bareSegment, hchars, between_eq_none hne.1, between_eq_none hne.2, hone]
  rw [← hcs]
  exact String.ofList_toList

theorem bareSegment_rest (name : String) : bareSegment ("[..." ++ name ++ "]") = name := by
  have hchars : ("[..." ++ name ++ "]").toList = '[' :: '.' :: ('.' :: '.' :: (name.toList ++ [']'])) := by
    simp
  have hrest : between ['[', '.', '.', '.'] [']'] ('[' :: '.' :: ('.' :: '.' :: (name.toList ++ [']']))) =
      some name.toList :=
    between_append ['[', '.', '.', '.'] [']'] name.toList
  have hne : '.' ≠ '[' := by decide
  simp only [bareSegment, hchars, between_eq_none hne, hrest]
  exact String.ofList_toList

theorem bareSegment_optionalRest (name : String) : bareSegment ("[[..." ++ name ++ "]]") = name := by
  have hchars : ("[[..." ++ name ++ "]]").toList =
      ['[', '[', '.', '.', '.'] ++ (name.toList ++ [']', ']']) := by
    simp
  simp only [bareSegment, hchars, between_append]
  exact String.ofList_toList

/-- Without its brackets a segment is the name of its parameter. -/
theorem bareSegment_brackets (h : param.IsSound) : bareSegment param.brackets = param.name := by
  unfold brackets
  split
  · exact bareSegment_optionalRest param.name
  · split
    · exact bareSegment_rest param.name
    · exact bareSegment_one h.name

end RouteParam

/-! ## Names of files -/

theorem toList_extension (s extension : String) :
    (s ++ "." ++ extension).toList = s.toList ++ '.' :: extension.toList := by
  simp

theorem isName_extension {s : String} (hs : IsName s) (extension : String) :
    IsName (s ++ "." ++ extension) := by
  obtain ⟨hempty, hhere, -⟩ := isName_iff.1 hs
  rw [isName_iff]
  simp only [Ne, ← String.toList_inj, toList_extension] at hempty hhere ⊢
  rcases hcs : s.toList with _ | ⟨c, _ | ⟨d, ds⟩⟩
  · exact absurd hcs hempty
  · simp_all
  · simp

/-- What stands in front of the last dot of a name is its stem. -/
theorem Path.splitName_of_extension {s extension : String} (hs : IsName s) (hdot : '.' ∉ extension.toList) :
    splitName (s ++ "." ++ extension) = (s, some extension) := by
  have hkept : ∀ c ∈ extension.toList.reverse, (c != '.') = true := by
    intro c hc
    rw [bne_iff_ne]
    rintro rfl
    exact hdot (List.mem_reverse.1 hc)
  have hreverse : (s ++ "." ++ extension).toList.reverse =
      extension.toList.reverse ++ '.' :: s.toList.reverse := by
    rw [toList_extension, List.reverse_append, List.reverse_cons, List.append_assoc, List.singleton_append]
  have hbefore : (s ++ "." ++ extension).toList.reverse.dropWhile (· != '.') = '.' :: s.toList.reverse := by
    rw [hreverse, List.dropWhile_append_of_pos hkept, List.dropWhile_cons_of_neg (by simp)]
  have hafter : (s ++ "." ++ extension).toList.reverse.takeWhile (· != '.') = extension.toList.reverse := by
    rw [hreverse, List.takeWhile_append_of_pos hkept, List.takeWhile_cons_of_neg (by simp), List.append_nil]
  have hup : (s ++ "." ++ extension == "..") = false :=
    beq_eq_false_iff_ne.2 (isName_iff.1 (isName_extension hs extension)).2.2
  obtain ⟨c, cs, hcs⟩ : ∃ c cs, s.toList.reverse = c :: cs :=
    List.exists_cons_of_ne_nil (by simpa using (isName_iff.1 hs).1)
  unfold splitName
  simp only [hbefore, hafter, hcs, hup]
  rw [← hcs]
  simp

/-- Names behind the slash at the end of a directory's text are so many more parts. -/
theorem Path.parts_below (pieces below : List String) (hne : pieces ≠ []) (hsome : below ≠ [])
    (hbelow : ∀ s ∈ below, IsName s) :
    parts ⟨pieces ++ below⟩ = parts ⟨pieces ++ [""]⟩ ++ below.map .name := by
  have hnames : below.filterMap Part.ofPiece? = below.map .name := filterMap_names hbelow
  have hslash : [""].filterMap Part.ofPiece? = [] := rfl
  obtain ⟨first, rest, rfl⟩ := List.exists_cons_of_ne_nil hne
  rw [List.cons_append, List.cons_append]
  by_cases hempty : first = ""
  · subst hempty
    rw [parts_root (by simp [hsome]), parts_root (by simp), List.filterMap_append, List.filterMap_append,
      hnames, hslash, List.append_nil, List.cons_append]
  · by_cases hhere : first = "."
    · subst hhere
      simp only [parts, List.filterMap_append, hnames, hslash, List.append_nil, List.cons_append]
    · have hparts : ∀ rest, parts ⟨first :: rest⟩ = (first :: rest).filterMap Part.ofPiece? := by
        intro rest
        unfold parts
        split <;> simp_all
      rw [hparts, hparts, ← List.cons_append, ← List.cons_append, List.filterMap_append,
        List.filterMap_append, hnames, hslash, List.append_nil]

/-- Two lists that part at some place have no common beginning that goes on beyond it. -/
theorem prefix_of_apart {α : Type} {start common xs ys : List α} {x y : α} (hne : x ≠ y)
    (hx : start <+: common ++ x :: xs) (hy : start <+: common ++ y :: ys) : start <+: common := by
  induction common generalizing start with
  | nil =>
    cases start with
    | nil => exact List.nil_prefix
    | cons a start =>
      rw [List.nil_append, List.cons_prefix_cons] at hx hy
      exact absurd (hx.1.symm.trans hy.1) hne
  | cons c common ih =>
    cases start with
    | nil => exact List.nil_prefix
    | cons a start =>
      rw [List.cons_append, List.cons_prefix_cons] at hx hy
      rw [List.cons_prefix_cons]
      exact ⟨hx.1, ih hx.2 hy.2⟩

namespace Route

variable {root file : Path} {s extension : String}

/-! ## Keys -/

/-- The parameters of a route are those that the pieces of its key stand for. -/
theorem params_eq (root : Path) (file : String) : (ofFile root (.ofString file)).params =
    (slashPieces (ofFile root (.ofString file)).key).filterMap RouteParam.ofSegment? := by
  have hapi : RouteParam.ofSegment? namespaceKey = none := by decide
  have hempty : RouteParam.ofSegment? "" = none := by decide
  rw [slashPieces_key, List.filterMap_cons_none hapi, keyPieces, ofFile_eq]
  split
  · rename_i hnone
    rw [hnone, List.filterMap_cons_none hempty]
  · rfl

/-! ## Index files -/

/-- Names behind a directory that lies in the directory of all routes come after those of the directory. -/
theorem exists_names {dir : List Part} (hdir : root.parts <+: dir) : ∃ init : List String,
    ∀ {file : Path} {below : List String}, file.parts = dir ++ below.map .name →
      names root file = init ++ below := by
  obtain ⟨name?, hnames, hname⟩ : ∃ name? : Part → Option String,
      (∀ root file, names root file = ((file.stripStart root).getD file.parts).filterMap name?) ∧
      ∀ s, name? (.name s) = some s :=
    ⟨_, fun _ _ => rfl, fun _ => rfl⟩
  refine ⟨(dir.drop root.parts.length).filterMap name?, fun {file below} hfile => ?_⟩
  have hstart : file.startsWith root = true := by
    rw [Path.startsWith, List.isPrefixOf_iff_prefix, hfile]
    exact hdir.trans (List.prefix_append _ _)
  have hbelow : (below.map Part.name).filterMap name? = below := by
    rw [List.filterMap_map, show name? ∘ Part.name = some from funext hname, List.filterMap_some]
  rw [hnames, Path.stripStart, if_pos hstart, Option.getD_some, hfile,
    List.drop_append_of_le_length hdir.length_le, List.filterMap_append, hbelow]

theorem segments_file (init : List String) (hs : IsName s) (hindex : s ≠ "index")
    (hdot : '.' ∉ extension.toList) : segments (init ++ [s ++ "." ++ extension]) = init ++ [s] := by
  simp [segments, Path.splitName_of_extension hs hdot, hindex]

theorem segments_index (init : List String) (hdot : '.' ∉ extension.toList) :
    segments (init ++ ["index" ++ "." ++ extension]) = init := by
  have hsplit := Path.splitName_of_extension (isName_of_two_lt_length (s := "index") (by decide)) hdot
  simp only [segments, List.getLast?_concat, hsplit, beq_self_eq_true, if_true, List.dropLast_concat]

theorem ofString_file (dir : String) (hs : '/' ∉ s.toList) (hextension : '/' ∉ extension.toList) :
    Path.ofString (dir ++ "/" ++ s ++ "." ++ extension) = ⟨slashPieces dir ++ [s ++ "." ++ extension]⟩ := by
  have hplain : '/' ∉ (s ++ "." ++ extension).toList := by
    simp [hs, hextension]
  rw [Path.ofString, ← slashPieces_of_notMem hplain, ← slashPieces_append]
  simp only [String.append_assoc]

theorem ofString_index (dir : String) (hs : '/' ∉ s.toList) (hextension : '/' ∉ extension.toList) :
    Path.ofString (dir ++ "/" ++ s ++ "/index." ++ extension) =
      ⟨slashPieces dir ++ [s, "index" ++ "." ++ extension]⟩ := by
  have htext : dir ++ "/" ++ s ++ "/index." ++ extension =
      dir ++ "/" ++ s ++ "/" ++ "index" ++ "." ++ extension := by
    simp only [String.append_assoc]
    rfl
  rw [htext, ofString_file (dir ++ "/" ++ s) (by decide) hextension, slashPieces_append,
    slashPieces_of_notMem hs, List.append_assoc, List.singleton_append]

/-- A file and the index file of a directory of its name lead to the same route. -/
theorem ofFile_index {dir : String} (hs : IsName s) (hslash : '/' ∉ s.toList) (hindex : s ≠ "index")
    (hdot : '.' ∉ extension.toList) (hextension : '/' ∉ extension.toList)
    (hfile : (Path.ofString (dir ++ "/" ++ s ++ "." ++ extension)).startsWith root = true)
    (hbelow : (Path.ofString (dir ++ "/" ++ s ++ "/index." ++ extension)).startsWith root = true) :
    ofFile root (.ofString (dir ++ "/" ++ s ++ "." ++ extension)) =
      ofFile root (.ofString (dir ++ "/" ++ s ++ "/index." ++ extension)) := by
  have hindexName := isName_extension (isName_of_two_lt_length (s := "index") (by decide)) extension
  have hparts := Path.parts_below (slashPieces dir) [s ++ "." ++ extension]
    (Path.ofString_pieces_ne dir) (by simp) (by simpa using isName_extension hs extension)
  have hindexParts := Path.parts_below (slashPieces dir) [s, "index" ++ "." ++ extension]
    (Path.ofString_pieces_ne dir) (by simp) (by simpa using ⟨hs, hindexName⟩)
  -- the paths part behind the directory, so that the directory lies below `root`
  have hne : Part.name (s ++ "." ++ extension) ≠ .name s := by
    rw [Ne, Part.name.injEq, ← String.toList_inj, toList_extension]
    simp
  rw [ofString_file dir hslash hextension] at hfile ⊢
  rw [ofString_index dir hslash hextension] at hbelow ⊢
  rw [Path.startsWith, List.isPrefixOf_iff_prefix, hparts] at hfile
  rw [Path.startsWith, List.isPrefixOf_iff_prefix, hindexParts] at hbelow
  obtain ⟨init, hinit⟩ := exists_names (prefix_of_apart hne hfile hbelow)
  have hnames : segments (names root ⟨slashPieces dir ++ [s ++ "." ++ extension]⟩) = init ++ [s] := by
    rw [hinit hparts, segments_file init hs hindex hdot]
  have hindexNames :
      segments (names root ⟨slashPieces dir ++ [s, "index" ++ "." ++ extension]⟩) = init ++ [s] := by
    rw [hinit hindexParts, ← segments_index (init ++ [s]) hdot, List.append_assoc, List.singleton_append]
  rw [ofFile_eq, ofFile_eq, hnames, hindexNames]

/-- **Segments, keys and files tell the same parameters.** A segment gives a parameter exactly if it is the
parameter's name, a run of word characters, in the brackets that the parameter's flags call for; no two
parameters have one segment, and the name is what is left without the brackets. The parameters of a route are
those of the pieces of its key, in order. A file below the directory of all routes and the index file of a
directory of its name, but for `index` itself, have the same route. -/
theorem brackets_agree :
    (∀ (segment : String) (param : RouteParam), RouteParam.ofSegment? segment = some param ↔
      param.IsSound ∧ segment = param.brackets) ∧
    (∀ param other : RouteParam, param.IsSound → other.IsSound → param.brackets = other.brackets →
      param = other) ∧
    (∀ (segment : String) (param : RouteParam), RouteParam.ofSegment? segment = some param →
      bareSegment segment = param.name) ∧
    (∀ (root : Path) (file : String), (ofFile root (.ofString file)).params =
      (slashPieces (ofFile root (.ofString file)).key).filterMap RouteParam.ofSegment?) ∧
    ∀ (root : Path) (dir s extension : String), IsName s → '/' ∉ s.toList → s ≠ "index" →
      '.' ∉ extension.toList → '/' ∉ extension.toList →
      (Path.ofString (dir ++ "/" ++ s ++ "." ++ extension)).startsWith root = true →
      (Path.ofString (dir ++ "/" ++ s ++ "/index." ++ extension)).startsWith root = true →
      ofFile root (.ofString (dir ++ "/" ++ s ++ "." ++ extension)) =
        ofFile root (.ofString (dir ++ "/" ++ s ++ "/index." ++ extension)) := by
  refine ⟨fun segment param => RouteParam.ofSegment?_eq_some,
    fun param other h hother => RouteParam.brackets_injective h hother, fun segment param h => ?_,
    fun root file => params_eq root file,
    fun root dir s extension hs hslash hindex hdot hextension hfile hbelow =>
      ofFile_index hs hslash hindex hdot hextension hfile hbelow⟩
  obtain ⟨hsound, rfl⟩ := RouteParam.ofSegment?_eq_some.1 h
  exact RouteParam.bareSegment_brackets hsound

/-- A directory and a file in brackets below `pages/api`. -/
theorem brackets_agree_optional :
    let root := Path.ofString "/app/pages/api"
    let file := Path.ofString "/app/pages/api/[org]/[[...path]].ts"
    let param : RouteParam := ⟨"path", true, true⟩
    param.IsSound ∧ RouteParam.ofSegment? "[[...path]]" = some param ∧
      bareSegment "[[...path]]" = "path" ∧
      (ofFile root file).params = (slashPieces (ofFile root file).key).filterMap RouteParam.ofSegment? ∧
      ofFile root file = ofFile root (.ofString "/app/pages/api/[org]/[[...path]]/index.ts") := by
  intro root file param
  obtain ⟨hsegment, -, hbare, hparams, hindex⟩ := brackets_agree
  have hsound : param.IsSound := ⟨⟨by decide, List.all_eq_true.1 (by decide)⟩, fun _ => rfl⟩
  have hparam : RouteParam.ofSegment? "[[...path]]" = some param := (hsegment _ _).2 ⟨hsound, by decide⟩
  refine ⟨hsound, hparam, hbare _ _ hparam, hparams root "/app/pages/api/[org]/[[...path]].ts", ?_⟩
  exact hindex root "/app/pages/api/[org]" "[[...path]]" "ts" (by rw [isName_iff]; decide) (by decide)
    (by decide) (by decide) (by decide) (by decide) (by decide)

end Route

end ApiShapes
