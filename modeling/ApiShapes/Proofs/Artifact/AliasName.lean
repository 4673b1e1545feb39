import ApiShapes.Artifact.Name
import ApiShapes.Proofs.Route.Key
import ApiShapes.Proofs.Text.Identifier

/-!
# Names of aliases as identifiers

* `all_routeName` : a key in camel case is made of parts of identifiers exactly if its bare pieces are, but
  for what separates words;
* `isIdentifier_aliasName` : the name of an alias starts like an identifier, so it is one exactly if the
  key's camel case goes on like one;
* `aliasName_isIdentifier_iff` : hence only the characters that the segments of the file's path hold beside
  their brackets decide. Nothing is escaped: a `+` or `@` in a directory's name comes out in the name of
  the alias.
-/

namespace ApiShapes

open Text

/-- A name goes on like an identifier, but for what separates its words. -/
def isNameText (s : String) : Bool :=
  s.toList.all fun c => isWordBreak c || isIdentifierPart c

theorem isNameText_iff {s : String} :
    isNameText s = true ↔ ∀ c ∈ s.toList, isWordBreak c = true ∨ isIdentifierPart c = true := by
  simp only [isNameText, List.all_eq_true, Bool.or_eq_true]

theorem all_routeName (key : String) : (routeName key).toList.all isIdentifierPart =
    (slashPieces key).all fun piece => isNameText (bareSegment piece) := by
  rw [routeName, String.toList_join, List.flatMap_map, List.all_flatMap]
  simp only [all_upperCamel]
  rfl

theorem isIdentifier_method (method : Method) : isIdentifier (upperCamel method.key) = true := by
  cases method <;> decide

theorem all_suffix (side : Side) :
    (upperCamel side.suffixText).toList.all isIdentifierPart = true := by
  cases side <;> decide

theorem isIdentifier_aliasName (key : String) (method : Method) (side : Side) :
    isIdentifier (aliasName key method side) =
      (slashPieces key).all fun piece => isNameText (bareSegment piece) := by
  rw [aliasName, String.append_assoc, isIdentifier_append (isIdentifier_method method),
    String.toList_append, List.all_append, all_suffix, Bool.and_true, all_routeName]

/-- What a key adds to the segments, `api` and perhaps an empty piece, is harmless. -/
theorem all_keyPieces (names : List String) :
    (Route.namespaceKey :: Route.keyPieces names).all (fun piece => isNameText (bareSegment piece)) =
      (Route.segments names).all fun segment => isNameText (bareSegment segment) := by
  have hapi : isNameText (bareSegment Route.namespaceKey) = true := by decide
  rw [List.all_cons, hapi, Bool.true_and, Route.keyPieces]
  split
  · rename_i hnone
    rw [hnone]
    decide
  · rfl

/-- The alias of a route file is an identifier exactly if every character of the route's bare segments is a
part of identifiers or separates words. -/
theorem aliasName_isIdentifier_iff (root : Path) (file : String) (method : Method) (side : Side) :
    isIdentifier (aliasName (Route.ofFile root (.ofString file)).key method side) = true ↔
      ∀ segment ∈ Route.segments (Route.names root (.ofString file)),
        ∀ c ∈ (bareSegment segment).toList, isWordBreak c = true ∨ isIdentifierPart c = true := by
  rw [isIdentifier_aliasName, Route.slashPieces_key, all_keyPieces, List.all_eq_true]
  simp only [isNameText_iff]

example : isIdentifier (aliasName (Route.ofFile (.ofString "/app/pages/api")
    (.ofString "/app/pages/api/a+b.ts")).key .get .request) = false := by
  decide

end ApiShapes
