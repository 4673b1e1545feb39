import ApiShapes.Arena.Lower
import ApiShapes.Program.Basic
import ApiShapes.Source.Module
import ApiShapes.Worklist

/-!
# Loading a program

* `Program.load` : the program of some root files and every file they lead to;
* `Program.ofSources` : the program of texts, all of which are roots.
-/

namespace ApiShapes.Program

/-- The specifiers that the statements of a module name, each once: those of import bindings and of
exports from another module. -/
def specifiers (p : Program) (file : NodeId) : List String :=
  let named := (p.arena.statements file).filterMap fun id =>
    match p.arena.kind? id with
    | some (.binding ..) => p.importOf? id
    | some (.reExport specifier ..) => specifier
    | some (.exportAll specifier) => some specifier
    | _ => none
  named.eraseDups

/-- The program with one more file. A file without text is an empty module. -/
def addFile (p : Program) (path : Path) (source : Option String) : NodeId × Program :=
  let body := Source.parseModule (.ofPath path) (source.getD "")
  let (file, arena) := p.arena.addModule path body
  (file, { p with arena, files := p.files ++ [(path, file)] })

/-- Loads the files of `pending`, the first one first, and what they lead to. A file is loaded if it is
still `unseen`; what it leads to goes before the rest. -/
def loadAll (available : List Path) (read : Path → Option String) (p : Program)
    (unseen pending : List Path) : Program :=
  match pending with
  | [] => p
  | path :: rest =>
    if _h : path ∈ unseen then
      let (file, p') := p.addFile path (read path)
      let targets := (p'.specifiers file).filterMap fun specifier =>
        p'.resolver.resolve path specifier available.contains
      let unseen' := without path unseen
      loadAll available read p' unseen' ((targets.filter unseen'.contains).reverse ++ rest)
    else loadAll available read p unseen rest
termination_by (unseen.length, pending.length)
decreasing_by
  · exact Prod.Lex.left _ _ (length_without_lt _h)
  · exact Prod.Lex.right _ (by simp)

/-- The program of root files and every file they lead to, where `available` lists the files there
are and `read` gives their texts. -/
def load (roots : List Path) (resolver : ModuleResolver) (available : List Path)
    (read : Path → Option String) : Program :=
  let roots := roots.map Path.normal
  loadAll available read { roots, resolver } (roots ++ available) roots

/-- The program of texts by path. Of two texts with one path the later one counts. -/
def ofSources (sources : List (Path × String)) : Program :=
  let texts := sources.map fun (path, source) => (path.normal, source)
  let paths := texts.map (·.1)
  load paths {} paths fun path => texts.reverse.lookup path

end ApiShapes.Program
