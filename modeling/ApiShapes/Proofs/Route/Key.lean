import ApiShapes.Proofs.Path.Location
import ApiShapes.Proofs.Text.Pieces
import ApiShapes.Route.Basic

/-!
# The key of a route

* `Route.names`, `Route.ofFile_eq` : key and parameters of a route come from the names of the file's path
  below the directory of all routes;
* `mem_of_segments` : the segments of a route have the characters of these names;
* `Route.slashPieces_key` : the pieces of a key between its slashes are `api` and the segments. A file that
  stands for the directory of all routes has an empty piece instead.
-/

namespace ApiShapes

open Text

/-! ## Characters of segments -/

theorem mem_of_splitName {s : String} {c : Char} (h : c ∈ (Path.splitName s).1.toList) :
    c ∈ s.toList := by
  unfold Path.splitName at h
  dsimp only at h
  split at h
  · rename_i before hbefore
    split at h
    · exact h
    · rw [String.toList_ofList, List.mem_reverse] at h
      have hrest : c ∈ s.toList.reverse.dropWhile (· != '.') := hbefore ▸ List.mem_cons_of_mem _ h
      exact List.mem_reverse.1 ((List.dropWhile_sublist _).subset hrest)
  · exact h

theorem mem_of_segments {names : List String} {segment : String} (hsegment : segment ∈ Route.segments names)
    {c : Char} (hc : c ∈ segment.toList) : ∃ name ∈ names, c ∈ name.toList := by
  unfold Route.segments at hsegment
  split at hsegment
  · cases hsegment
  · rename_i leaf hleaf
    have hinit : ∀ s ∈ names.dropLast, c ∈ s.toList → ∃ name ∈ names, c ∈ name.toList :=
      fun s hs hc => ⟨s, List.dropLast_subset _ hs, hc⟩
    dsimp only at hsegment
    split at hsegment
    · exact hinit segment hsegment hc
    · rcases List.mem_append.1 hsegment with hsegment | hsegment
      · exact hinit segment hsegment hc
      · obtain rfl := List.mem_singleton.1 hsegment
        exact ⟨leaf, List.mem_of_getLast? hleaf, mem_of_splitName hc⟩

theorem mem_pieces_of_name {path : Path} {s : String} (h : .name s ∈ path.parts) : s ∈ path.pieces := by
  have hmem : Part.name s ∈ path.pieces.filterMap Part.ofPiece? := by
    rw [Path.filterMap_ofPiece?]
    exact List.mem_filter.2 ⟨h, rfl⟩
  obtain ⟨piece, hpiece, hpart⟩ := List.mem_filterMap.1 hmem
  rwa [← piece_of_ofPiece? hpart] at hpiece

namespace Route

/-! ## Names below the directory of all routes -/

/-- The names of a file's path below `root`; all its names if it lies elsewhere. -/
def names (root file : Path) : List String :=
  ((file.stripStart root).getD file.parts).filterMap fun
    | .name s => some s
    | _ => none

variable {root file : Path}

theorem ofFile_eq (root file : Path) : ofFile root file =
    { key := namespaceKey ++ "/" ++ "/".intercalate (segments (names root file))
      params := (segments (names root file)).filterMap RouteParam.ofSegment? } :=
  rfl

theorem mem_pieces_of_names {name : String} (h : name ∈ names root file) : name ∈ file.pieces := by
  obtain ⟨part, hpart, hname⟩ := List.mem_filterMap.1 h
  have hparts : part ∈ file.parts := by
    unfold Path.stripStart at hpart
    split at hpart
    · exact List.mem_of_mem_drop hpart
    · exact hpart
  split at hname
  · cases hname
    exact mem_pieces_of_name hparts
  · cases hname

/-- The segments of a written path's route have no slashes. -/
theorem slash_notMem_segments {root : Path} {file segment : String}
    (h : segment ∈ segments (names root (.ofString file))) : '/' ∉ segment.toList := by
  intro hslash
  obtain ⟨name, hname, hmem⟩ := mem_of_segments h hslash
  exact notMem_of_mem_slashPieces (mem_pieces_of_names hname) hmem

/-! ## Pieces of a key -/

def keyPieces (names : List String) : List String :=
  if segments names = [] then [""] else segments names

theorem slashPieces_key (root : Path) (file : String) :
    slashPieces (ofFile root (.ofString file)).key =
      namespaceKey :: keyPieces (names root (.ofString file)) := by
  rw [ofFile_eq, slashPieces_append, slashPieces_of_notMem (s := namespaceKey) (by decide),
    List.singleton_append, keyPieces]
  congr 1
  split
  · rename_i hnone
    rw [hnone]
    rfl
  · rename_i hsome
    exact slashPieces_intercalate hsome fun _ => slash_notMem_segments

end Route

end ApiShapes
