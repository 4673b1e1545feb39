import ApiShapes.CommandLine.Invocation
import ApiShapes.Project.Build

/-!
# One run of the program

* `Exit` : what a run leaves behind besides files;
* `run` : does what the arguments ask for, once.
-/

namespace ApiShapes

/-- How a run ends, and what it prints. -/
structure Exit where
  code : Nat
  stdout : String := ""
  stderr : String := ""
  deriving DecidableEq, Repr

def versionText : String := "routetypes 0.1.0\n"

def helpText : String :=
  "Generate request/response type declarations for file-routed API handlers

Usage: routetypes [OPTIONS]

Options:
  -i, --input <ROOT>        Project root
  -o, --output <DIR>        Output directory for $apis.ts [default: <ROOT>/lib]
  -p, --ignore-path <PATH>  Path excluded from route discovery, relative to the root
      --tsconfig <PATH>     tsconfig file name or path [default: tsconfig.json]
  -w, --watch               Rebuild whenever a route file is added, changed or deleted
  -h, --help                Print help
  -V, --version             Print version
"

def misuseText : String :=
  "error: unexpected arguments\n\nUsage: routetypes [OPTIONS]\n\nFor more information, try '--help'.\n"

def Exit.failure (message : String) : Exit :=
  { code := 1, stderr := message ++ "\n" }

/-- A run that succeeds. The artifact's path is printed if the artifact is new. -/
def Exit.success : WriteOutcome → Exit
  | .written path => { code := 0, stdout := path.text ++ " was built successfully\n" }
  | .unchanged _ => { code := 0 }

/-- One build of the project that options ask for in the working directory `cwd`. -/
def runBuild (cwd : Path) (options : ProjectOptions) : StateM FileTree Exit := do
  match Configuration.load (← get) cwd options with
  | .error e => return .failure e.message
  | .ok config =>
    match ← (generate config).run with
    | .error e => return .failure e.message
    | .ok outcome => return .success outcome

/-- Does what the arguments ask for, once. -/
def run (cwd : Path) (args : List String) : StateM FileTree Exit :=
  match Invocation.ofArgs args with
  | .help => return { code := 0, stdout := helpText }
  | .version => return { code := 0, stdout := versionText }
  | .misuse => return { code := 2, stderr := misuseText }
  | .build options _ => runBuild cwd options

end ApiShapes
