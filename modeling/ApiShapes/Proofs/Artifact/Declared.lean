import ApiShapes.Artifact.Render
import ApiShapes.Program.Load
import ApiShapes.Program.Types
import ApiShapes.Proofs.Route.Key
import ApiShapes.Proofs.Route.Segment
import ApiShapes.Proofs.Shape.Lines
import ApiShapes.Proofs.Text.Camel

/-!
# The blocks of an artifact

* `Declared`, `Declared.ofBlock?` : what a block declares, as read from its text: an alias for a type, or
  the entry of an index interface, whose key is read like a string of the checked language;
* `Declared.ofHandler` : the four declarations of a handler;
* `aliasName_gap`, `newline_of_key` : a name has no blanks, and a line break only where the file's path has
  one;
* `Record.unbroken_aliasBlock`, `Record.unbroken_indexBlock` : no block has a blank line;
* `renderArtifact_blocks` : the artifact split at its blank lines is read as the declarations of all
  handlers in order.
-/

namespace ApiShapes

open Text

/-- What a block of an artifact declares. -/
inductive Declared where
  | alias (name body : String)
  | entry (index key value : String)
  deriving DecidableEq, Repr

namespace Declared

/-- The word behind `start`, up to a blank, and what follows it. -/
def wordAfter (start block : List Char) : Option (List Char × List Char) := do
  let rest ← dropStart start block
  return (rest.takeWhile (· != ' '), rest.dropWhile (· != ' '))

def alias? (block : List Char) : Option Declared := do
  let (name, rest) ← wordAfter "type ".toList block
  let body ← between " = ".toList ";".toList rest
  return .alias (.ofList name) (.ofList body)

def entry? (block : List Char) : Option Declared := do
  let (index, rest) ← wordAfter "export interface ".toList block
  let (key, _, rest) ← Source.scanString '"' [] (← dropStart " \x7b\n  \"".toList rest)
  let value ← between ": ".toList ";\n\x7d".toList rest
  return .entry (.ofList index) (Source.Unit16.text key) (.ofList value)

def ofBlock? (block : List Char) : Option Declared :=
  alias? block <|> entry? block

/-- The declarations of a handler: for the request and then for the response, an alias and an entry that
has it as its value. -/
def ofHandler (route : Route) (handler : Handler) : List Declared :=
  let request := aliasName route.key handler.method .request
  let response := aliasName route.key handler.method .response
  [.alias request (handler.request.withRouteParams route.params).print,
    .entry (indexName handler.method .request) route.key request,
    .alias response handler.response.print,
    .entry (indexName handler.method .response) route.key response]

end Declared

/-! ## Names and keys -/

theorem mem_intercalate {α : Type} {sep : List α} {ls : List (List α)} {a : α}
    (h : a ∈ sep.intercalate ls) : a ∈ sep ∨ ∃ l ∈ ls, a ∈ l := by
  induction ls with
  | nil => cases h
  | cons l ls ih =>
    cases ls with
    | nil => exact .inr ⟨l, by simp, by simpa using h⟩
    | cons l' ls =>
      rw [List.intercalate_cons_cons, List.mem_append, List.mem_append] at h
      rcases h with (h | h) | h
      · exact .inr ⟨l, by simp, h⟩
      · exact .inl h
      · exact (ih h).imp_right fun ⟨m, hm, ha⟩ => ⟨m, List.mem_cons_of_mem l hm, ha⟩

theorem mem_intercalate_of_mem {α : Type} {sep l : List α} {ls : List (List α)} {a : α}
    (hl : l ∈ ls) (ha : a ∈ l) : a ∈ sep.intercalate ls := by
  induction ls with
  | nil => cases hl
  | cons first ls ih =>
    cases ls with
    | nil => simpa [List.mem_singleton.1 hl] using ha
    | cons next ls =>
      rw [List.intercalate_cons_cons, List.mem_append]
      rcases List.mem_cons.1 hl with rfl | hl
      · exact .inl (List.mem_append_left _ ha)
      · exact .inr (ih hl)

theorem subset_of_between {start finish cs inner : List Char}
    (h : between start finish cs = some inner) : inner ⊆ cs := by
  obtain rfl := between_eq_some.1 h
  exact fun c hc => List.mem_append_right _ (List.mem_append_left _ hc)

theorem mem_of_bareSegment {s : String} {c : Char} (h : c ∈ (bareSegment s).toList) :
    c ∈ s.toList := by
  rw [bareSegment, String.toList_ofList] at h
  cases hmany : between ['[', '[', '.', '.', '.'] [']', ']'] s.toList with
  | some inner =>
    rw [hmany] at h
    exact subset_of_between hmany h
  | none =>
    cases hrest : between ['[', '.', '.', '.'] [']'] s.toList with
    | some inner =>
      rw [hmany, hrest] at h
      exact subset_of_between hrest h
    | none =>
      rw [hmany, hrest] at h
      cases hone : between ['['] [']'] s.toList with
      | some inner =>
        rw [hone] at h
        exact subset_of_between hone h
      | none =>
        rw [hone] at h
        exact h

theorem method_key_plain (method : Method) : ∀ c ∈ method.key.toList, isGap c = false := by
  have h : method.key.toList.all (!isGap ·) = true := by
    cases method <;> decide
  simpa using h

theorem suffixText_plain (side : Side) : ∀ c ∈ side.suffixText.toList, isGap c = false := by
  have h : side.suffixText.toList.all (!isGap ·) = true := by
    cases side <;> decide
  simpa using h

/-- Camel case of a text without gaps has none. -/
theorem upperCamel_plain {s : String} (hs : ∀ c ∈ s.toList, isGap c = false) :
    ∀ c ∈ (upperCamel s).toList, isGap c = false := by
  intro c hc
  cases hgap : isGap c with
  | false => rfl
  | true =>
    obtain ⟨-, hmem⟩ := upperCamel_gap hc hgap
    rw [← hgap, hs c hmem]

/-- A name has no blanks, and line breaks only where the key has them. -/
theorem aliasName_gap {key : String} {method : Method} {side : Side} {c : Char}
    (hc : c ∈ (aliasName key method side).toList) (hgap : isGap c = true) :
    c = '\n' ∧ c ∈ key.toList := by
  rw [aliasName, String.toList_append, String.toList_append, List.mem_append, List.mem_append] at hc
  rcases hc with (hc | hc) | hc
  · simp [upperCamel_plain (method_key_plain method) c hc] at hgap
  · rw [routeName, String.toList_join, List.mem_flatMap] at hc
    obtain ⟨_, hname, hc⟩ := hc
    obtain ⟨segment, hsegment, rfl⟩ := List.mem_map.1 hname
    obtain ⟨hline, hc⟩ := upperCamel_gap hc hgap
    obtain ⟨piece, hpiece, rfl⟩ := List.mem_map.1 hsegment
    have hmem := mem_of_bareSegment hc
    rw [String.toList_ofList] at hmem
    exact ⟨hline, (mem_of_mem_pieces hpiece hmem).1⟩
  · simp [upperCamel_plain (suffixText_plain side) c hc] at hgap

theorem indexName_plain (method : Method) (side : Side) :
    ∀ c ∈ (indexName method side).toList, isGap c = false := by
  intro c hc
  rw [indexName, String.toList_append, List.mem_append] at hc
  exact hc.elim (upperCamel_plain (method_key_plain method) c) (suffixText_plain side c)

theorem mem_text {path : Path} {s : String} (hs : s ∈ path.pieces) {c : Char} (hc : c ∈ s.toList) :
    c ∈ path.text.toList := by
  rw [Path.text, String.toList_intercalate]
  exact mem_intercalate_of_mem (List.mem_map_of_mem hs) hc

/-- A line break in the key of a file's route is one of the file's path. -/
theorem newline_of_key {input file : Path} (h : '\n' ∈ (Route.ofFile input file).key.toList) :
    '\n' ∈ file.text.toList := by
  rw [Route.ofFile_eq, Route.namespaceKey, String.toList_append, String.toList_append, List.mem_append,
    List.mem_append, String.toList_intercalate] at h
  rcases h with (h | h) | h
  · exact absurd h (by decide)
  · exact absurd h (by decide)
  rcases mem_intercalate h with h | ⟨l, hl, h⟩
  · exact absurd h (by decide)
  obtain ⟨segment, hsegment, rfl⟩ := List.mem_map.1 hl
  obtain ⟨name, hname, hline⟩ := mem_of_segments hsegment h
  exact mem_text (Route.mem_pieces_of_names hname) hline

/-! ## Reading a block -/

theorem Declared.wordAfter_append (start : List Char) {name rest : List Char}
    (hname : ∀ c ∈ name, isGap c = false) (hrest : rest.head? = some ' ') :
    wordAfter start (start ++ (name ++ rest)) = some (name, rest) := by
  have hkept : ∀ c ∈ name, (c != ' ') = true := by
    rintro c hc
    rw [bne_iff_ne]
    rintro rfl
    cases hname ' ' hc
  obtain ⟨rest, rfl⟩ : ∃ tail, rest = ' ' :: tail := by
    cases rest with
    | nil => cases hrest
    | cons c tail =>
      cases hrest
      exact ⟨tail, rfl⟩
  rw [wordAfter, dropStart_append, Option.bind_eq_bind, Option.bind_some,
    List.takeWhile_append_of_pos hkept, List.dropWhile_append_of_pos hkept]
  simp

namespace Record

variable {r : Record}

theorem ofBlock?_aliasBlock (hname : ∀ c ∈ r.name.toList, isGap c = false) :
    Declared.ofBlock? r.aliasBlock.toList = some (.alias r.name r.body.print) := by
  have hchars : r.aliasBlock.toList = "type ".toList ++ (r.name.toList ++
      (" = ".toList ++ (r.body.print.toList ++ ";".toList))) := by
    simp only [aliasBlock, String.toList_append, List.append_assoc]
  have halias : Declared.alias? r.aliasBlock.toList = some (.alias r.name r.body.print) := by
    rw [hchars, Declared.alias?, Declared.wordAfter_append _ hname rfl]
    simp only [Option.bind_eq_bind, Option.bind_some, between_append, Option.pure_def,
      String.ofList_toList]
  rw [Declared.ofBlock?, halias]
  rfl

theorem ofBlock?_indexBlock : Declared.ofBlock? r.indexBlock.toList =
    some (.entry (indexName r.method r.side) r.routeKey r.name) := by
  have hindent : (indent 1).toList = [' ', ' '] := by
    rw [indent, String.toList_ofList]
    rfl
  have hquote : " \x7b\n  \"".toList = " \x7b\n".toList ++ ((indent 1).toList ++ "\"".toList) := by
    rw [hindent]
    decide
  have hchars : r.indexBlock.toList = "export interface ".toList ++
      ((indexName r.method r.side).toList ++ (" \x7b\n  \"".toList ++
        (r.routeKey.toList.flatMap escapeChar ++
          '"' :: (": ".toList ++ (r.name.toList ++ ";\n\x7d".toList))))) := by
    have hmark : "\"".toList = ['"'] := rfl
    unfold indexBlock
    simp only [hquote, quote, escape, String.toList_append, String.toList_ofList,
      List.append_assoc, hmark, List.cons_append, List.nil_append]
  have halias : Declared.alias? r.indexBlock.toList = none := by
    rw [hchars]
    rfl
  have hentry : Declared.entry? r.indexBlock.toList =
      some (.entry (indexName r.method r.side) r.routeKey r.name) := by
    rw [hchars, Declared.entry?, Declared.wordAfter_append _ (indexName_plain _ _) rfl]
    simp only [Option.bind_eq_bind, Option.bind_some, dropStart_append, Source.scanString_escape,
      between_append, List.reverse_nil, List.nil_append, Source.text_map_char, Option.pure_def,
      String.ofList_toList]
  rw [Declared.ofBlock?, halias, hentry]
  rfl

/-! ## No block has a blank line -/

theorem unbroken_aliasBlock (hname : '\n' ∉ r.name.toList) : Unbroken r.aliasBlock.toList := by
  have hname : Unbroken r.name.toList := .of_notMem hname
  have hbody : Unbroken r.body.print.toList := Shape.unbroken_chars r.body 0
  have htype : Unbroken "type ".toList := .of_notMem (by decide)
  have hequals : Unbroken " = ".toList := .of_notMem (by decide)
  have hend : Unbroken ";".toList := .of_notMem (by decide)
  simp only [aliasBlock, String.toList_append]
  exact (((htype.append hname).append hequals).append hbody).append hend

theorem unbroken_indexBlock (hname : '\n' ∉ r.name.toList) : Unbroken r.indexBlock.toList := by
  have hname : Unbroken r.name.toList := .of_notMem hname
  have hindex : Unbroken (indexName r.method r.side).toList := .of_ne fun c hc hline => by
    have hplain := indexName_plain _ _ c hc
    rw [hline] at hplain
    cases hplain
  have hhead : Unbroken ("export interface ".toList ++ (indexName r.method r.side).toList ++
      " \x7b".toList) :=
    ((Unbroken.of_notMem (by decide)).append hindex).append (.of_notMem (by decide))
  have hentry : Unbroken ("  ".toList ++ (quote r.routeKey).toList ++ ": ".toList ++ r.name.toList ++
      ";".toList) :=
    ((((Unbroken.of_notMem (by decide)).append (unbroken_quote _)).append (.of_notMem (by decide))).append
      hname).append (.of_notMem (by decide))
  have hclose : Unbroken "\x7d".toList := .of_notMem (by decide)
  have hlines := hhead.append_line (by simp) (hentry.append_line (by simp) hclose (by simp)) (by simp)
  have hindent : (indent 1).toList = "  ".toList := by
    rw [indent, String.toList_ofList]
    rfl
  unfold indexBlock
  simpa [hindent] using hlines

end Record

/-! ## The whole text -/

namespace Record

def blocks (r : Record) : List (List Char) :=
  [r.aliasBlock.toList, r.indexBlock.toList]

def declared (r : Record) : List Declared :=
  [.alias r.name r.body.print, .entry (indexName r.method r.side) r.routeKey r.name]

variable {r : Record}

theorem unbroken_of_mem_blocks (hname : ∀ c ∈ r.name.toList, isGap c = false) {block : List Char}
    (hblock : block ∈ r.blocks) : Unbroken block := by
  have hline : '\n' ∉ r.name.toList := fun hmem => by cases hname _ hmem
  rcases List.mem_cons.1 hblock with rfl | hblock
  · exact unbroken_aliasBlock hline
  · rw [List.mem_singleton.1 hblock]
    exact unbroken_indexBlock hline

theorem map_ofBlock?_blocks (hname : ∀ c ∈ r.name.toList, isGap c = false) :
    r.blocks.map Declared.ofBlock? = r.declared.map some := by
  rw [blocks, declared, List.map_cons, List.map_cons, ofBlock?_aliasBlock hname, ofBlock?_indexBlock]
  rfl

/-- Printed records are their blocks with a blank line between each two. -/
theorem toList_intercalate_print (rs : List Record) :
    ("\n\n".intercalate (rs.map print)).toList = ['\n', '\n'].intercalate (rs.flatMap blocks) := by
  have hprint : ∀ r : Record, r.print.toList = ['\n', '\n'].intercalate r.blocks := by
    intro r
    simp [print, blocks, List.intercalate_cons_cons]
  rw [String.toList_intercalate, List.map_map]
  change ['\n', '\n'].intercalate _ = _
  induction rs with
  | nil => rfl
  | cons r rs ih =>
    cases rs with
    | nil => simp [hprint]
    | cons r' rs =>
      simp only [List.map_cons, Function.comp_apply, List.flatMap_cons, blocks, List.cons_append,
        List.nil_append] at ih ⊢
      rw [List.intercalate_cons_cons, ih, List.intercalate_cons_cons, List.intercalate_cons_cons,
        hprint]
      simp [blocks, List.intercalate_cons_cons]

end Record

theorem flatMap_filter_of_nil {α β : Type} {f : α → List β} {p : α → Bool} {as : List α}
    (h : ∀ a ∈ as, p a = false → f a = []) : (as.filter p).flatMap f = as.flatMap f := by
  induction as with
  | nil => rfl
  | cons a as ih =>
    have hrest := ih fun b hb => h b (List.mem_cons_of_mem a hb)
    cases hp : p a with
    | true => rw [List.filter_cons_of_pos hp, List.flatMap_cons, List.flatMap_cons, hrest]
    | false =>
      rw [List.filter_cons_of_neg (by simp [hp]), List.flatMap_cons,
        h a List.mem_cons_self hp, hrest, List.nil_append]

variable {checker : Checker} {framework : Framework} {input file : Path} {files : List Path}

/-- The names in a file's records have no gaps. -/
theorem plain_of_mem_fileRecords (hfile : '\n' ∉ file.text.toList) {r : Record}
    (hr : r ∈ fileRecords checker framework input file) : ∀ c ∈ r.name.toList, isGap c = false := by
  intro c hc
  cases hgap : isGap c with
  | false => rfl
  | true =>
    obtain ⟨handler, -, hr⟩ := List.mem_flatMap.1 hr
    have hname : ∃ side, r.name = aliasName (Route.ofFile input file).key handler.method side := by
      rcases List.mem_cons.1 hr with rfl | hr
      · exact ⟨.request, rfl⟩
      · exact ⟨.response, by rw [List.mem_singleton.1 hr]⟩
    obtain ⟨side, hside⟩ := hname
    rw [hside] at hc
    obtain ⟨rfl, hkey⟩ := aliasName_gap hc hgap
    exact (hfile (newline_of_key hkey)).elim

theorem declared_fileRecords (checker : Checker) (framework : Framework) (input file : Path) :
    (fileRecords checker framework input file).flatMap Record.declared =
      (extractHandlers checker framework file).flatMap
        (Declared.ofHandler (Route.ofFile input file)) := by
  rw [fileRecords, List.flatMap_assoc]
  rfl

/-- A handler leaves blocks. -/
theorem flatMap_blocks_ne_nil (input : Path)
    (h : files.flatMap (extractHandlers checker framework) ≠ []) :
    (files.flatMap (fileRecords checker framework input)).flatMap Record.blocks ≠ [] := by
  obtain ⟨handler, hhandler⟩ := List.exists_mem_of_ne_nil _ h
  obtain ⟨file, hfile, hhandler⟩ := List.mem_flatMap.1 hhandler
  obtain ⟨r, hr⟩ : ∃ r, r ∈ Record.ofHandler (Route.ofFile input file) handler :=
    ⟨_, List.mem_cons_self⟩
  have hrecord : r ∈ files.flatMap (fileRecords checker framework input) :=
    List.mem_flatMap.2 ⟨file, hfile, List.mem_flatMap.2 ⟨handler, hhandler, hr⟩⟩
  exact List.ne_nil_of_mem (List.mem_flatMap.2 ⟨r, hrecord, List.mem_cons_self⟩)

/-- An artifact with handlers is read block by block as what they declare. -/
theorem map_ofBlock?_renderArtifact (hfiles : ∀ file ∈ files, '\n' ∉ file.text.toList)
    (hhandlers : files.flatMap (extractHandlers checker framework) ≠ []) :
    (blankPieces (renderArtifact checker framework input files).toList).map Declared.ofBlock? =
      (files.flatMap fun file => (extractHandlers checker framework file).flatMap
        (Declared.ofHandler (Route.ofFile input file))).map some := by
  have hplain : ∀ r ∈ files.flatMap (fileRecords checker framework input),
      ∀ c ∈ r.name.toList, isGap c = false := by
    intro r hr
    obtain ⟨file, hfile, hr⟩ := List.mem_flatMap.1 hr
    exact plain_of_mem_fileRecords (hfiles file hfile) hr
  have hunbroken : ∀ b ∈ (files.flatMap (fileRecords checker framework input)).flatMap Record.blocks,
      Unbroken b := by
    intro b hb
    obtain ⟨r, hr, hb⟩ := List.mem_flatMap.1 hb
    exact Record.unbroken_of_mem_blocks (hplain r hr) hb
  have hne := flatMap_blocks_ne_nil input hhandlers
  rw [renderArtifact, Record.toList_intercalate_print, blankPieces_intercalate hunbroken hne,
    List.map_flatMap, List.flatMap_congr fun r hr => Record.map_ofBlock?_blocks (hplain r hr),
    ← List.map_flatMap, List.flatMap_assoc]
  simp only [declared_fileRecords]

/-- Without handlers the artifact is empty. Otherwise its text, split at its blank lines, consists of four
blocks for each handler, in the order of the files and of the handlers in them, and each block is read as
what it declares; an entry of an index interface is read back to the key of the file's route, and its value
is the name of the alias in front of it. A file without handlers leaves no trace. -/
theorem renderArtifact_blocks (hfiles : ∀ file ∈ files, '\n' ∉ file.text.toList) :
    (files.flatMap (extractHandlers checker framework) = [] →
      renderArtifact checker framework input files = "") ∧
    (files.flatMap (extractHandlers checker framework) ≠ [] →
      (blankPieces (renderArtifact checker framework input files).toList).map Declared.ofBlock? =
        (files.flatMap fun file => (extractHandlers checker framework file).flatMap
          (Declared.ofHandler (Route.ofFile input file))).map some) ∧
    renderArtifact checker framework input files = renderArtifact checker framework input
      (files.filter fun file => !(extractHandlers checker framework file).isEmpty) := by
  have hnone : ∀ file, extractHandlers checker framework file = [] →
      fileRecords checker framework input file = [] := by
    intro file hfile
    rw [fileRecords, hfile, List.flatMap_nil]
  refine ⟨fun hempty => ?_, map_ofBlock?_renderArtifact hfiles, ?_⟩
  · have hrecords : files.flatMap (fileRecords checker framework input) = [] :=
      List.flatMap_eq_nil_iff.2 fun file hfile => hnone file (List.flatMap_eq_nil_iff.1 hempty file hfile)
    rw [renderArtifact, hrecords]
    rfl
  · rw [renderArtifact, renderArtifact, flatMap_filter_of_nil]
    intro file _ hfile
    exact hnone file (by simpa using hfile)

theorem renderArtifact_blocks_item :
    let item := Path.ofString "/app/pages/api/item.ts"
    let program : Program := ((Program.mk {} [] [item] {}).addFile item (some (
      "import \x7b NextApiResponse \x7d from 'next';\n" ++
        "export default table(\x7b GET: (q, r: NextApiResponse<'a\\n\\nb'>) => 0 \x7d);"))).2
    '\n' ∉ item.text.toList ∧ (blankPieces (renderArtifact program.checker {}
        (.ofString "/app/pages/api") [.ofString "/app/lib.ts", item]).toList).map Declared.ofBlock? =
      [some (.alias "GetApiItemRequest" "unknown"),
        some (.entry "GetRequest" "api/item" "GetApiItemRequest"),
        some (.alias "GetApiItemResponse" "\"a\\n\\nb\""),
        some (.entry "GetResponse" "api/item" "GetApiItemResponse")] := by
  intro item program
  refine ⟨by decide, ?_⟩
  rw [(@renderArtifact_blocks program.checker {} (.ofString "/app/pages/api")
    [.ofString "/app/lib.ts", item] (by decide)).2.1 (by decide +kernel)]
  decide +kernel

end ApiShapes
