import ApiShapes.Json.Comments
import ApiShapes.Json.Value

/-!
# What a tsconfig file says

* `WrittenOptions`, `WrittenConfig` : the parts of the file that matter, as written;
* `WrittenConfig.ofText?` : reads the file's text.

A record is an object, whose other keys do not matter, or an array of the first fields' values.
-/

namespace ApiShapes

/-- The compiler options, as written. -/
structure WrittenOptions where
  baseUrl : Option String := none
  /-- patterns of module specifiers with their targets, in the order of the patterns -/
  mappings : Option (List (String × List String)) := none
  outDir : Option String := none
  deriving DecidableEq, Repr

/-- A tsconfig file, as written. -/
structure WrittenConfig where
  /-- the files that this one extends -/
  bases : List String := []
  options : WrittenOptions := {}
  files : Option (List String) := none
  included : Option (List String) := none
  excluded : Option (List String) := none
  deriving DecidableEq, Repr

namespace JsonValue

/-- The values of a record's fields in the order of their names. No field comes twice, and all keys
are sound. -/
def fields (names : List String) : JsonValue → Option (List (Option JsonValue))
  | .object entries =>
    if entries.all (·.1.isSome) then
      names.mapM fun name =>
        match entries.filter (·.1 == some name) with
        | [] => some none
        | [(_, value)] => some (some value)
        | _ => none
    else none
  | .array items =>
    if items.length ≤ names.length then
      some (items.map some ++ List.replicate (names.length - items.length) none)
    else none
  | _ => none

def asText? : JsonValue → Option String
  | .string text => text
  | _ => none

def asTexts? : JsonValue → Option (List String)
  | .array items => items.mapM asText?
  | _ => none

/-- A value that may be missing or null. -/
def optional {α : Type} (read : JsonValue → Option α) : Option JsonValue → Option (Option α)
  | none => some none
  | some .null => some none
  | some value => (read value).map some

/-- The texts among the items of an array; any other value has none. -/
def textItems : JsonValue → List String
  | .array items => items.filterMap asText?
  | _ => []

/-- An object's entries in the order of their keys. Of two with one key the later one counts. -/
def sortedEntries (entries : List (Option String × JsonValue)) :
    Option (List (String × JsonValue)) := do
  let entries ← entries.mapM fun (key, value) => key.map (·, value)
  let keys := (entries.map (·.1)).eraseDups.mergeSort fun a b => decide (a ≤ b)
  return keys.filterMap fun key => (entries.reverse.lookup key).map (key, ·)

def asMappings? : JsonValue → Option (List (String × List String))
  | .object entries =>
    if areSoundEntries entries then
      (sortedEntries entries).map (·.map fun (pattern, targets) => (pattern, targets.textItems))
    else none
  | _ => none

def asTextOrTexts? : JsonValue → Option (List String)
  | .string text => text.map ([·])
  | value => value.asTexts?

end JsonValue

open JsonValue

def WrittenOptions.ofJson? (value : JsonValue) : Option WrittenOptions := do
  match ← value.fields ["baseUrl", "paths", "outDir"] with
  | [baseUrl, paths, outDir] =>
    return { baseUrl := ← optional asText? baseUrl
             mappings := ← optional asMappings? paths
             outDir := ← optional asText? outDir }
  | _ => none

namespace WrittenConfig

def ofJson? (value : JsonValue) : Option WrittenConfig := do
  match ← value.fields ["extends", "compilerOptions", "files", "include", "exclude"] with
  | [bases, options, files, included, excluded] =>
    return { bases := (← optional asTextOrTexts? bases).getD []
             options := ← match options with
               | some options => WrittenOptions.ofJson? options
               | none => some {}
             files := ← optional asTexts? files
             included := ← optional asTexts? included
             excluded := ← optional asTexts? excluded }
  | _ => none

/-- The file that a text gives, in JSON with comments. -/
def ofText? (s : String) : Option WrittenConfig := do
  ofJson? (← JsonValue.ofText? (Json.stripComments s))

end WrittenConfig

end ApiShapes
