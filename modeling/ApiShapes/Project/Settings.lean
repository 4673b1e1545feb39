import ApiShapes.Project.Error
import ApiShapes.Toml.TextTable

/-!
# The file of settings

* `Settings` : what a project says about itself in its root;
* `Settings.ofText?` : reads the file's text;
* `Settings.load` : the settings of a project; no file means no settings.
-/

namespace ApiShapes

/-- What a project says about itself. -/
structure Settings where
  output : Option String := none
  ignorePath : Option String := none
  tsconfig : Option String := none
  helperModule : Option String := none
  deriving DecidableEq, Repr

namespace Settings

def fileName : String := "routetypes.toml"

def keys : List String := ["output", "ignore_path", "tsconfig", "helper_module"]

/-- The settings that a file's text gives. Each key may stand once, and no other. -/
def ofText? (s : String) : Option Settings := do
  let entries ← Toml.readTable s
  let names := entries.map (·.1)
  if names.all keys.contains && names.eraseDups == names then
    return { output := entries.lookup "output"
             ignorePath := entries.lookup "ignore_path"
             tsconfig := entries.lookup "tsconfig"
             helperModule := entries.lookup "helper_module" }
  else none

def load (tree : FileTree) (root : Path) : Except ConfigError Settings :=
  let path := root.child fileName
  if tree.isFile path then
    match tree.readText path with
    | .ok s =>
      match ofText? s with
      | some settings => .ok settings
      | none => .error (.badSettings path)
    | .error cause => .error (.unreadable path cause)
  else .ok {}

end Settings

end ApiShapes
