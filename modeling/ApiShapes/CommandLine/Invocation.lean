import ApiShapes.Project.Load

/-!
# What a command line asks for

* `Invocation` : a build, help, the version, or nothing that makes sense;
* `Invocation.ofArgs` : reads the arguments from left to right; the first that settles the matter wins.

A setting takes its value from its own argument (`-ix`, `-i=x`, `--input=x`) or from the next one.
-/

namespace ApiShapes

/-- The settings that take a value. -/
inductive Setting where
  | input
  | output
  | ignorePath
  | tsconfig
  deriving DecidableEq, Repr

def Setting.ofName? : String → Option Setting
  | "input" => some .input
  | "output" => some .output
  | "ignore-path" => some .ignorePath
  | "tsconfig" => some .tsconfig
  | _ => none

def Setting.ofLetter? : Char → Option Setting
  | 'i' => some .input
  | 'o' => some .output
  | 'p' => some .ignorePath
  | _ => none

/-- The settings read so far. -/
structure Draft where
  values : List (Setting × String) := []
  watch : Bool := false
  deriving DecidableEq, Repr

/-- What a command line asks for. -/
inductive Invocation where
  | build (options : ProjectOptions) (watch : Bool)
  | help
  | version
  | misuse
  deriving DecidableEq, Repr

namespace Draft

/-- The draft with one more value, which is not empty and the first of its setting. -/
def withValue? (draft : Draft) (setting : Setting) (value : String) : Option Draft :=
  if value == "" || (draft.values.lookup setting).isSome then none
  else some { draft with values := (setting, value) :: draft.values }

/-- The draft with the flag that may stand once. -/
def withWatch? (draft : Draft) : Option Draft :=
  if draft.watch then none else some { draft with watch := true }

def path? (draft : Draft) (setting : Setting) : Option Path :=
  (draft.values.lookup setting).map .ofString

def invocation (draft : Draft) : Invocation :=
  .build { rootDir := draft.path? .input
           output := draft.path? .output
           ignorePath := draft.path? .ignorePath
           tsconfig := draft.path? .tsconfig } draft.watch

end Draft

/-- What one argument leads to. -/
inductive ArgStep where
  | more (draft : Draft)
  /-- the next argument is this setting's value -/
  | wants (setting : Setting) (draft : Draft)
  | stop (invocation : Invocation)
  deriving DecidableEq, Repr

namespace ArgStep

def ofDraft? : Option Draft → ArgStep
  | some draft => more draft
  | none => stop .misuse

/-- An argument after its two dashes. -/
def ofLong (draft : Draft) (arg : String) : ArgStep :=
  match Text.cutFirst '=' arg with
  | some (name, value) =>
    match Setting.ofName? name with
    | some setting => ofDraft? (draft.withValue? setting value)
    | none => stop .misuse
  | none =>
    match Setting.ofName? arg with
    | some setting => wants setting draft
    | none =>
      match arg with
      | "watch" => ofDraft? draft.withWatch?
      | "help" => stop .help
      | "version" => stop .version
      | _ => stop .misuse

/-- The letters of an argument after its dash. What follows a setting's letter is its value. -/
def ofLetters (draft : Draft) : List Char → ArgStep
  | [] => more draft
  | c :: cs =>
    match Setting.ofLetter? c, cs with
    | some setting, [] => wants setting draft
    | some setting, '=' :: value => ofDraft? (draft.withValue? setting (String.ofList value))
    | some setting, value => ofDraft? (draft.withValue? setting (String.ofList value))
    | none, cs =>
      match c with
      | 'w' =>
        match draft.withWatch? with
        | some draft => ofLetters draft cs
        | none => stop .misuse
      | 'h' => stop .help
      | 'V' => stop .version
      | _ => stop .misuse

/-- One argument. There are none but settings and flags. -/
def ofArg (draft : Draft) (arg : String) : ArgStep :=
  match arg.toList with
  | '-' :: '-' :: name => ofLong draft (String.ofList name)
  | '-' :: c :: cs => ofLetters draft (c :: cs)
  | _ => stop .misuse

end ArgStep

namespace Invocation

/-- The argument can be the value of the setting in front of it: it is no setting or flag. -/
def isValue (arg : String) : Bool :=
  match arg.toList with
  | '-' :: _ :: _ => false
  | _ => true

/-- Reads the rest of the arguments. Nothing may follow two dashes that stand alone. -/
def read (draft : Draft) : List String → Invocation
  | [] => draft.invocation
  | ["--"] => draft.invocation
  | "--" :: _ :: _ => .misuse
  | arg :: rest =>
    match ArgStep.ofArg draft arg with
    | .more draft => read draft rest
    | .stop invocation => invocation
    | .wants setting draft =>
      match rest with
      | value :: rest =>
        if isValue value then
          match draft.withValue? setting value with
          | some draft => read draft rest
          | none => .misuse
        else .misuse
      | [] => .misuse

def ofArgs (args : List String) : Invocation :=
  read {} args

end Invocation

end ApiShapes
