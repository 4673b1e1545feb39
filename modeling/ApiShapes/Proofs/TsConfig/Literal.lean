import ApiShapes.Proofs.Glob.Reading
import ApiShapes.Proofs.Path.Below
import ApiShapes.Proofs.Path.Climbing
import ApiShapes.Proofs.TsConfig.Precedence

/-!
# Entries that are meant literally

* `FileTree.location_of_locate` : a path that leads somewhere leads to where its normal form does;
* `LiteralEntry`, `LiteralDirectory` : what the path of an entry must look like for its pattern to mean the
  path: no bracket in it, the start of the configuration's own directory, and, for a directory, neither a dot
  nor a star in the last component;
* `LiteralDirectory.accepted_below`, `LiteralEntry.accepted` : then the pattern accepts what lies below the
  directory, or the source file;
* `TsConfig.literal_entries` : such an entry of `exclude` keeps what it names out of the files that are found,
  and such an entry of `include` includes all that lies below it.

Patterns are not escaped, so brackets in the name of a file or directory form a class. A dot anywhere in the
last component passes for the mark of a file: a directory `.cache` has no extension, and yet its pattern is
left to match the directory alone.
-/

namespace ApiShapes

open Text

/-! ## Where a path leads -/

namespace FileTree
open ApiShapes.Part

variable {tree : FileTree} {loc loc' : Location} {path : Path} {entry : Entry}

theorem eq_foldl_of_walk {pieces : List String} (h : tree.walk loc pieces = .ok loc') :
    loc' = pieces.foldl step loc := by
  induction pieces generalizing loc with
  | nil =>
    cases h
    rfl
  | cons piece pieces ih =>
    rw [walk] at h
    split at h
    · exact ih h
    · cases h
    · cases h

/-- Steps along pieces go down the names that the pieces go down, and up as far as there are names. -/
theorem foldl_step (loc : Location) (pieces : List String) (ups : Nat) :
    ∃ ups', (pieces.filterMap ofPiece?).foldl reduceStep (ups, loc.reverse) =
      (ups', (pieces.foldl step loc).reverse) := by
  induction pieces generalizing loc ups with
  | nil => exact ⟨ups, rfl⟩
  | cons piece pieces ih =>
    cases hpart : ofPiece? piece with
    | none =>
      rw [List.filterMap_cons_none hpart, List.foldl_cons, step_of_ofPiece?_none hpart]
      exact ih loc ups
    | some part =>
      rw [List.filterMap_cons_some hpart, List.foldl_cons, List.foldl_cons]
      have hpiece := piece_of_ofPiece? hpart
      cases part with
      | root =>
        rw [← hpiece] at hpart
        cases hpart
      | here =>
        rw [← hpiece] at hpart
        cases hpart
      | name s =>
        obtain rfl : s = piece := hpiece
        have hwalk := ih (loc ++ [s]) ups
        rw [List.reverse_concat] at hwalk
        rw [step_of_isName hpart]
        exact hwalk
      | up =>
        obtain rfl : ".." = piece := hpiece
        have hup : step loc ".." = loc.dropLast := rfl
        rw [hup]
        rcases List.eq_nil_or_concat' loc with rfl | ⟨init, s, rfl⟩
        · exact ih [] (ups + 1)
        · have hwalk := ih init ups
          rw [List.dropLast_concat, List.reverse_concat]
          exact hwalk

/-- A path that leads somewhere leads to where its normal form does. -/
theorem location_of_locate (h : tree.locate path = .ok (loc, entry)) :
    path.normal.location = loc ∧ tree.entryAt loc = some entry := by
  obtain ⟨-, hwalk, hentry⟩ := locate_eq_ok.1 h
  obtain ⟨ups, hfold⟩ := foldl_step [] path.pieces 0
  have hreduce : reduce path.parts = (ups, loc.reverse) := by
    rw [← Path.reduce_filterMap, reduce, eq_foldl_of_walk hwalk]
    exact hfold
  rw [Path.location_normal, Path.descent, hreduce, List.reverse_reverse]
  exact ⟨rfl, hentry⟩

/-- No name holds a slash. -/
def SlashFree (tree : FileTree) : Prop :=
  ∀ entry ∈ tree.entries, ∀ s ∈ entry.1, '/' ∉ s.toList

theorem SlashFree.location (h : tree.SlashFree) (hentry : tree.entryAt loc = some entry) :
    ∀ s ∈ loc, '/' ∉ s.toList := by
  by_cases hnil : loc = []
  · simp [hnil]
  · exact h _ (mem_entries_of_entryAt hnil hentry)

end FileTree

namespace TsConfig
open TsConfigLayer

variable {tree : FileTree} {path file : Path} {config : TsConfig} {texts : List String}
  {patterns : List GlobPattern} {below : Location}

/-! ## Patterns of paths -/

theorem expandPattern_of_dot {s : String} (h : '.' ∈ lastChars s) : expandPattern s = s := by
  have hcontains : ((s.toList.reverse.takeWhile (· != '/')).contains '*' ||
      (s.toList.reverse.takeWhile (· != '/')).contains '.') = true := by
    rw [Bool.or_eq_true, List.contains_iff_mem, List.contains_iff_mem]
    exact .inr h
  rw [expandPattern, if_pos hcontains]

/-- The pattern for a directory stands for everything behind its slash. -/
theorem expandPattern_text (hpath : path.IsNormal) (hempty : path ≠ .empty)
    (hslash : ∀ s ∈ path.location, '/' ∉ s.toList)
    (hdot : '.' ∉ lastChars path.text) (hstar : '*' ∉ lastChars path.text) :
    expandPattern path.text = path.front ++ "/**/*" := by
  rcases hpath.text_eq hempty with htext | ⟨htext, hfront⟩
  · have hplain : ¬((path.text.toList.reverse.takeWhile (· != '/')).contains '*' ||
        (path.text.toList.reverse.takeWhile (· != '/')).contains '.') = true := by
      rw [Bool.or_eq_true, List.contains_iff_mem, List.contains_iff_mem]
      exact not_or.2 ⟨hstar, hdot⟩
    have hend := hpath.getLast?_front hslash hempty htext
    rw [expandPattern, if_neg hplain, htext]
    have hkept : path.front.toList.reverse.dropWhile (· == '/') = path.front.toList.reverse := by
      rw [← List.head?_reverse] at hend
      cases hchars : path.front.toList.reverse with
      | nil => rfl
      | cons c cs =>
        rw [hchars] at hend
        exact List.dropWhile_cons_of_neg (by simpa using hend)
    rw [hkept, List.reverse_reverse, String.ofList_toList]
  · rw [htext, hfront]
    decide

theorem exists_compiled (h : compilePatterns texts = .ok patterns) {s : String} (hs : s ∈ texts) :
    ∃ pattern ∈ patterns, GlobPattern.ofText (expandPattern s) = .ok pattern := by
  obtain ⟨pattern, hmem, hcompiled⟩ := exists_of_mapM h hs
  refine ⟨pattern, hmem, ?_⟩
  split at hcompiled
  · rename_i hread
    cases hcompiled
    exact hread
  · cases hcompiled

/-- The path has nothing in it that patterns give a meaning, and starts where the paths below the
configuration's directory start. -/
structure LiteralEntry (config : TsConfig) (path : Path) : Prop where
  brackets : '[' ∉ path.text.toList
  lead : path.lead = config.directory.lead

/-- The path is also taken for that of a directory. -/
structure LiteralDirectory (config : TsConfig) (path : Path) : Prop extends LiteralEntry config path where
  nonempty : path ≠ .empty
  dot : '.' ∉ lastChars path.text
  star : '*' ∉ lastChars path.text

theorem LiteralDirectory.front (h : LiteralDirectory config path) (hpath : path.IsNormal) :
    '[' ∉ path.front.toList ∧ path.front.toList.getLast? ≠ some '*' := by
  rcases hpath.text_eq h.nonempty with htext | ⟨-, hfront⟩
  · rw [← htext]
    refine ⟨h.brackets, fun hstar => ?_⟩
    obtain ⟨init, hchars⟩ := List.getLast?_eq_some_iff.1 hstar
    exact h.star (mem_lastChars hchars (by decide) List.not_mem_nil)
  · rw [hfront]
    decide

/-- The pattern of a directory accepts what lies below it. -/
theorem LiteralDirectory.accepted_below (h : LiteralDirectory config path) (hpath : path.IsNormal)
    (hslash : ∀ s ∈ path.location, '/' ∉ s.toList) (hcompile : compilePatterns texts = .ok patterns)
    (hmem : path.text ∈ texts) (hfile : file.IsNormal) (hlead : file.lead = config.directory.lead)
    (hbelow : below ≠ []) (hlocation : file.location = path.location ++ below) :
    accepted patterns file = true := by
  obtain ⟨pattern, hpattern, hread⟩ := exists_compiled hcompile hmem
  rw [expandPattern_text hpath h.nonempty hslash h.dot h.star] at hread
  refine List.any_eq_true.2 ⟨pattern, hpattern, ?_⟩
  rw [GlobPattern.accepts_iff_matches (GlobPattern.aligned_of_ofText hread),
    hpath.text_below hfile h.nonempty (hlead.trans h.lead.symm) hlocation hbelow, String.toList_append,
    String.toList_append, List.append_assoc]
  obtain ⟨hbrackets, hstar⟩ := h.front hpath
  exact GlobPattern.matches_below_of_ofText hbrackets hstar hread _

/-- The pattern of a source file accepts it. -/
theorem LiteralEntry.accepted (h : LiteralEntry config path) (hpath : path.IsNormal)
    (hsource : path.isTypeScript = true) (hcompile : compilePatterns texts = .ok patterns)
    (hmem : path.text ∈ texts) : accepted patterns path = true := by
  obtain ⟨pattern, hpattern, hread⟩ := exists_compiled hcompile hmem
  obtain ⟨before, extension, htext, hextension⟩ := Path.exists_text_of_isTypeScript hpath hsource
  have hdot : '.' ∈ lastChars path.text :=
    mem_lastChars htext (by decide) (by rcases hextension with rfl | rfl <;> decide)
  have hend : path.text.toList.getLast? ≠ some '*' := by
    rw [htext]
    rcases hextension with rfl | rfl <;> simp
  rw [expandPattern_of_dot hdot] at hread
  refine List.any_eq_true.2 ⟨pattern, hpattern, ?_⟩
  rw [GlobPattern.accepts_iff_matches (GlobPattern.aligned_of_ofText hread)]
  exact GlobPattern.matches_of_ofText h.brackets hend hread

/-! ## Entries of a configuration -/

variable {order : List ConfigSource} {roots : List Path} {root : Path} {skipped : String}

theorem settledBy_of_load (hload : load tree path = .ok config)
    (horder : Order tree [path.normal] order) : config.SettledBy order := by
  obtain ⟨layer, hlayer, rfl⟩ := load_eq_ok.1 hload
  obtain ⟨found, hfound, rfl⟩ := exists_order hlayer
  obtain rfl := hfound.unique horder
  exact settledBy_ofLayer _ _

/-- Files below a directory have paths that start like the directory's. -/
theorem lead_of_mem_filesBelow (hwf : tree.WellFormed) (hpath : path.IsNormal)
    (hfile : file ∈ tree.filesBelow skipped path) : file.lead = path.lead := by
  obtain ⟨names, rfl, hmem⟩ := hwf.exists_of_mem_filesBelow hpath hfile
  exact hpath.lead_foldl_child fun s hs =>
    hwf.isName_of_fileLocations hmem s (List.mem_append_right _ hs)

/-- A root file that is not listed was found below the configuration's directory, and no pattern of
`exclude` accepts it. -/
theorem found_of_mem_rootFiles (hroots : config.rootFiles tree = .ok roots) (hroot : root ∈ roots)
    (hlisted : root ∉ config.files) : ∃ excluded, compilePatterns config.excluded = .ok excluded ∧
      root ∈ tree.filesBelow "node_modules" config.directory ∧ TsConfig.accepted excluded root = false := by
  obtain ⟨included, excluded, -, hexcluded, rfl⟩ := rootFiles_eq_ok.1 hroots
  have hfound := (List.mem_append.1 hroot).resolve_left fun h => hlisted (mem_listedFiles.1 h).1
  obtain ⟨hbelow, hkept⟩ := List.mem_filter.1 hfound
  simp only [Bool.and_eq_true, Bool.not_eq_true'] at hkept
  exact ⟨excluded, hexcluded, hbelow, hkept.1.2⟩

section Entries

variable {dir : Path} {entry : String} {loc : Location}

/-- What is found below the directory that an entry names is accepted by the entry's pattern. -/
theorem accepted_of_directory (hwf : tree.WellFormed) (hslash : tree.SlashFree)
    (hdirectory : config.directory.IsNormal)
    (hlocate : tree.locate (dir.join (.ofString entry)) = .ok (loc, .directory))
    (hliteral : config.LiteralDirectory (absolute dir entry))
    (hcompile : compilePatterns texts = .ok patterns) (hmem : (absolute dir entry).text ∈ texts)
    (hfile : file ∈ tree.filesBelow skipped config.directory) (hbelow : below ≠ [])
    (hlocation : file.location = loc ++ below) : accepted patterns file = true := by
  obtain ⟨hnamed, hplace⟩ := FileTree.location_of_locate hlocate
  have hnames : ∀ s ∈ (absolute dir entry).location, '/' ∉ s.toList := hnamed ▸ hslash.location hplace
  rw [← hnamed] at hlocation
  exact hliteral.accepted_below (Path.normal_isNormal _) hnames hcompile hmem
    (hwf.mem_filesBelow hdirectory hfile).1 (lead_of_mem_filesBelow hwf hdirectory hfile) hbelow hlocation

/-- The source file that an entry names, if it is found, is accepted by the entry's pattern. -/
theorem accepted_of_file {content : Content} (hwf : tree.WellFormed)
    (hdirectory : config.directory.IsNormal)
    (hlocate : tree.locate (dir.join (.ofString entry)) = .ok (loc, .file content))
    (hsource : (absolute dir entry).isTypeScript = true)
    (hliteral : config.LiteralEntry (absolute dir entry))
    (hcompile : compilePatterns texts = .ok patterns) (hmem : (absolute dir entry).text ∈ texts)
    (hfile : file ∈ tree.filesBelow skipped config.directory) (hlocation : file.location = loc) :
    accepted patterns file = true := by
  have hnormal : (absolute dir entry).IsNormal := Path.normal_isNormal _
  obtain ⟨hnamed, -⟩ := FileTree.location_of_locate hlocate
  have hlead : file.lead = (absolute dir entry).lead :=
    (lead_of_mem_filesBelow hwf hdirectory hfile).trans hliteral.lead.symm
  obtain rfl : file = absolute dir entry :=
    hnormal.eq_of_location (hwf.mem_filesBelow hdirectory hfile).1 hlead (hlocation.trans hnamed.symm)
  exact hliteral.accepted hnormal hsource hcompile hmem

end Entries

/-- **Literal entries mean what they name.** Entries are taken from where the file stands that sets them. If
the path of an entry of `exclude` is literal and leads to a directory, no root file lies below it but those
that are listed by name; if it leads to a source file, this is not found either. And what is found below the
directory of such an entry of `include` is included. -/
theorem literal_entries (hwf : tree.WellFormed) (hslash : tree.SlashFree)
    (hload : load tree path = .ok config) (horder : Order tree [path.normal] order)
    (hroots : config.rootFiles tree = .ok roots) :
    (∀ dir said, firstSet order (·.excluded) = some (dir, said) → ∀ entry ∈ said, ∀ loc,
      (tree.locate (dir.join (.ofString entry)) = .ok (loc, .directory) →
        config.LiteralDirectory (absolute dir entry) →
        ∀ root ∈ roots, root ∉ config.files → ∀ below, below ≠ [] → root.location ≠ loc ++ below) ∧
      (∀ content, tree.locate (dir.join (.ofString entry)) = .ok (loc, .file content) →
        (absolute dir entry).isTypeScript = true → config.LiteralEntry (absolute dir entry) →
        ∀ root ∈ roots, root ∉ config.files → root.location ≠ loc)) ∧
    (∀ dir said, firstSet order (·.included) = some (dir, said) → ∀ entry ∈ said, ∀ loc,
      tree.locate (dir.join (.ofString entry)) = .ok (loc, .directory) →
      config.LiteralDirectory (absolute dir entry) →
      ∃ included, compilePatterns config.included = .ok included ∧
        ∀ file ∈ tree.filesBelow "node_modules" config.directory, ∀ below, below ≠ [] →
          file.location = loc ++ below → accepted included file = true) := by
  have hsettled := settledBy_of_load hload horder
  obtain ⟨hdirectory, -⟩ := load_directory hwf hload
  refine ⟨fun dir said hsaid entry hentry loc => ?_, fun dir said hsaid entry hentry loc hlocate hliteral => ?_⟩
  · have hmem : (absolute dir entry).text ∈ config.excluded := by
      rw [hsettled.excluded, hsaid]
      exact List.mem_append_left _ (List.mem_map_of_mem hentry)
    refine ⟨fun hlocate hliteral root hroot hlisted below hbelow hlocation => ?_,
      fun content hlocate hsource hliteral root hroot hlisted hlocation => ?_⟩
    · obtain ⟨excluded, hcompile, hfound, hrejected⟩ := found_of_mem_rootFiles hroots hroot hlisted
      have haccepted := accepted_of_directory hwf hslash hdirectory hlocate hliteral hcompile hmem hfound
        hbelow hlocation
      rw [hrejected] at haccepted
      cases haccepted
    · obtain ⟨excluded, hcompile, hfound, hrejected⟩ := found_of_mem_rootFiles hroots hroot hlisted
      have haccepted := accepted_of_file hwf hdirectory hlocate hsource hliteral hcompile hmem hfound
        hlocation
      rw [hrejected] at haccepted
      cases haccepted
  · have hmem : (absolute dir entry).text ∈ config.included := by
      rw [hsettled.included, hsaid]
      exact List.mem_map_of_mem hentry
    obtain ⟨included, -, hcompile, -, -⟩ := rootFiles_eq_ok.1 hroots
    exact ⟨included, hcompile, fun file hfile below hbelow hlocation =>
      accepted_of_directory hwf hslash hdirectory hlocate hliteral hcompile hmem hfile hbelow hlocation⟩

/-- A directory is included, and excluded are a directory and a file in it; one of the files below the
excluded directory is listed. -/
def literalTree : FileTree where
  entries := [
    (["tsconfig.json"], .file (.text ("\x7b\"files\":[\"app/gen/y.ts\"],\"include\":[\"app\"]," ++
      "\"exclude\":[\"./app/gen/\",\"app/../app/x.ts\"]\x7d"))),
    (["app"], .directory),
    (["app", "gen"], .directory),
    (["app", "gen", "w.ts"], .file (.text "")),
    (["app", "gen", "y.ts"], .file (.text "")),
    (["app", "x.ts"], .file (.text "")),
    (["app", "z.ts"], .file (.text ""))]

theorem literalTree_wellFormed : literalTree.WellFormed where
  names := by
    unfold IsName
    decide
  parent := by decide

theorem literalTree_slashFree : literalTree.SlashFree := by
  unfold FileTree.SlashFree
  decide

theorem mem_filesBelow_literalTree :
    .ofString "/app/z.ts" ∈ literalTree.filesBelow "node_modules" (.ofString "/") := by
  have hlocate : literalTree.locate (.ofString "/") = .ok ([], .directory) := by decide
  have hnames : ["app", "z.ts"] ∈ literalTree.namesBelow "node_modules" [] :=
    FileTree.mem_namesBelow_iff.2 (by decide)
  rw [FileTree.filesBelow_eq hlocate, if_neg (by decide)]
  exact List.mem_map.2 ⟨_, hnames, by decide⟩

theorem exists_load_literalTree : ∃ config roots,
    load literalTree (.ofString "/tsconfig.json") = .ok config ∧
      config.rootFiles literalTree = .ok roots ∧ config.directory = .ofString "/" ∧
      config.files = [.ofString "/app/gen/y.ts"] := by
  have hfields : ((load literalTree (.ofString "/tsconfig.json")).toOption.map fun config =>
      (config.directory, config.files, config.included, config.excluded)) =
        some (.ofString "/", [.ofString "/app/gen/y.ts"], ["/app"], ["/app/gen", "/app/x.ts"]) := by
    decide +kernel
  cases hload : load literalTree (.ofString "/tsconfig.json") with
  | error e =>
    rw [hload] at hfields
    cases hfields
  | ok config =>
    rw [hload] at hfields
    obtain ⟨hdirectory, hfields⟩ := Prod.mk.inj (Option.some.inj hfields)
    obtain ⟨hfiles, hfields⟩ := Prod.mk.inj hfields
    obtain ⟨hincluded, hexcluded⟩ := Prod.mk.inj hfields
    obtain ⟨included, hcompiled⟩ : ∃ patterns, compilePatterns config.included = .ok patterns := by
      rw [hincluded]
      exact ⟨_, rfl⟩
    obtain ⟨excluded, hcompiled'⟩ : ∃ patterns, compilePatterns config.excluded = .ok patterns := by
      rw [hexcluded]
      exact ⟨_, rfl⟩
    exact ⟨config, _, rfl, rootFiles_eq_ok.2 ⟨included, excluded, hcompiled, hcompiled', rfl⟩, hdirectory,
      hfiles⟩

/-- Of the two files below the excluded directory only the listed one is a root file, the excluded file is
none, and the other file of the included directory is included. -/
theorem literal_entries_literalTree : ∃ config roots,
    load literalTree (.ofString "/tsconfig.json") = .ok config ∧
      config.rootFiles literalTree = .ok roots ∧ config.files = [.ofString "/app/gen/y.ts"] ∧
      (∀ root ∈ roots, ∀ below, below ≠ [] → root.location = ["app", "gen"] ++ below →
        root = .ofString "/app/gen/y.ts") ∧
      (∀ root ∈ roots, root ∉ config.files → root.location ≠ ["app", "x.ts"]) ∧
      ∃ included, compilePatterns config.included = .ok included ∧
        accepted included (.ofString "/app/z.ts") = true := by
  obtain ⟨config, roots, hload, hroots, hdirectory, hfiles⟩ := exists_load_literalTree
  let written : WrittenConfig :=
    { files := some ["app/gen/y.ts"], included := some ["app"]
      excluded := some ["./app/gen/", "app/../app/x.ts"] }
  have hwritten : written? literalTree (.ofString "/tsconfig.json") = some written := by
    decide +kernel
  have horder : Order literalTree [(Path.ofString "/tsconfig.json").normal]
      [⟨.ofString "/", written⟩] := .cons hwritten .nil .nil
  obtain ⟨hexclude, hinclude⟩ :=
    literal_entries literalTree_wellFormed literalTree_slashFree hload horder hroots
  have hlead : config.directory.lead = [.root] := by
    rw [hdirectory]
    decide
  have hgen : config.LiteralDirectory (absolute (.ofString "/") "./app/gen/") :=
    ⟨⟨by decide, by rw [hlead]; decide⟩, by decide, by decide, by decide⟩
  have hx : config.LiteralEntry (absolute (.ofString "/") "app/../app/x.ts") :=
    ⟨by decide, by rw [hlead]; decide⟩
  have happ : config.LiteralDirectory (absolute (.ofString "/") "app") :=
    ⟨⟨by decide, by rw [hlead]; decide⟩, by decide, by decide, by decide⟩
  refine ⟨config, roots, hload, hroots, hfiles, fun root hroot below hbelow hlocation => ?_, ?_, ?_⟩
  · by_contra hother
    exact (hexclude _ _ rfl "./app/gen/" (by simp) ["app", "gen"]).1 (by decide) hgen root hroot
      (by simpa [hfiles] using hother) below hbelow hlocation
  · exact (hexclude _ _ rfl "app/../app/x.ts" (by simp) ["app", "x.ts"]).2 (.text "") (by decide)
      (by decide) hx
  · obtain ⟨included, hcompiled, haccepted⟩ :=
      hinclude _ _ rfl "app" (by simp) ["app"] (by decide) happ
    rw [hdirectory] at haccepted
    exact ⟨included, hcompiled,
      haccepted _ mem_filesBelow_literalTree ["z.ts"] (by decide) (by decide)⟩

/-- A bracket in an entry opens a class, and a dot passes for the mark of a file. -/
example : (compilePatterns ["/app/[id]", "/.cache"]).toOption.map (fun patterns =>
    (accepted patterns (.ofString "/app/[id]/x.ts"), accepted patterns (.ofString "/.cache/y.ts"))) =
      some (false, false) := by
  decide

end TsConfig

end ApiShapes
