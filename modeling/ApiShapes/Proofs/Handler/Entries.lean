import ApiShapes.Handler.Extract
import ApiShapes.Proofs.Handler.Layers

/-!
# Entries of a method table, one by one

* `Expr.bare`, `Checker.bare` : with nothing in any object literal;
* `extractEntry_bare` : the handler of an entry does not depend on what stands in object literals;
* `OnlyEntry` : a checker that says the same, but with one entry in the table;
* `extractHandlers_layered` : the handlers of a file are those of its entries, each found as if it were the
  only one.
-/

namespace ApiShapes

/-! ## Without the contents of object literals -/

mutual

/-- The expression with nothing in its object literals. -/
def Expr.bare : Expr → Expr
  | .call callee args => .call callee.bare (bareAll args)
  | .object _ => .object []
  | value => value

def bareAll : List Expr → List Expr
  | [] => []
  | value :: rest => value.bare :: bareAll rest

end

theorem bareAll_eq_map (values : List Expr) : bareAll values = values.map Expr.bare := by
  induction values with
  | nil => rfl
  | cons value rest ih => rw [bareAll, ih, List.map_cons]

def NodeKind.bare : NodeKind → NodeKind
  | var name type value exported => var name type (value.map Expr.bare) exported
  | exportDefault value => exportDefault value.bare
  | kind => kind

def Node.bare (node : Node) : Node :=
  { node with kind := node.kind.bare }

/-- The checker of a program with nothing in its object literals, which tells nothing about calls. -/
def Checker.bare (checker : Checker) : Checker where
  node id := (checker.node id).map Node.bare
  defaultExport := checker.defaultExport
  typeAt := checker.typeAt
  symbol := checker.symbol
  members := checker.members
  callSignature _ _ := none
  importOrigin := checker.importOrigin

variable {checker alone : Checker} {framework : Framework} {scope : NodeId} {entry : ObjectProperty}

theorem node_bare (id : NodeId) : checker.bare.node id = (checker.node id).map Node.bare := rfl

theorem twoParams_bare (function : NodeId) :
    twoParams checker.bare function = twoParams checker function := by
  rw [twoParams, twoParams, node_bare]
  cases checker.node function with
  | error e => rfl
  | ok node =>
    obtain ⟨parent, kind⟩ := node
    cases kind <;> rfl

/-- The search for a handler looks into no object literal. -/
theorem searchHandler_bare (steps : Nat) (pending : List (NodeId × Expr)) (visited : List NodeId) :
    searchHandler checker.bare steps (pending.map fun (scope, value) => (scope, value.bare)) visited =
      searchHandler checker steps pending visited := by
  induction steps generalizing pending visited with
  | zero => cases pending <;> rfl
  | succ steps ih =>
    cases pending with
    | nil => rfl
    | cons item rest =>
      obtain ⟨scope, value⟩ := item
      rw [List.map_cons]
      cases value with
      | function function =>
        simp only [searchHandler, Expr.bare, twoParams_bare]
        cases twoParams checker function with
        | none => exact ih rest visited
        | some params => rfl
      | ident name =>
        have hsymbol : checker.bare.symbol scope name .value = checker.symbol scope name .value := rfl
        simp only [searchHandler, Expr.bare, hsymbol]
        cases checker.symbol scope name .value with
        | none => exact ih rest visited
        | some declared =>
          simp only [node_bare]
          split
          · exact ih rest visited
          · cases checker.node declared with
            | error e => exact ih rest _
            | ok node =>
              obtain ⟨parent, kind⟩ := node
              cases kind with
              | function name params exported =>
                simp only [Except.map, Node.bare, NodeKind.bare, twoParams_bare]
                cases twoParams checker declared with
                | none => exact ih rest _
                | some found => rfl
              | var name type value exported =>
                cases value with
                | none => exact ih rest _
                | some value => exact ih ((declared, value) :: rest) _
              | _ => exact ih rest _
      | call callee args =>
        have hargs : (args.map (scope, ·) ++ rest).map (fun (scope, value) => (scope, value.bare)) =
            (bareAll args).map (scope, ·) ++ rest.map fun (scope, value) => (scope, value.bare) := by
          rw [List.map_append, bareAll_eq_map, List.map_map, List.map_map]
          rfl
        simp only [searchHandler, Expr.bare]
        rw [← hargs]
        exact ih _ visited
      | object properties => exact ih rest visited
      | other => exact ih rest visited

theorem handlerParams_bare (scope : NodeId) (value : Expr) :
    handlerParams checker.bare scope value.bare = handlerParams checker scope value :=
  searchHandler_bare maxUnwrapSteps [(scope, value)] []

/-! ## Shapes -/

open Encoding in
theorem encodeMember_bare (encodeType : CheckedType → Encoding Shape) :
    encodeMember checker.bare encodeType = encodeMember checker encodeType := by
  funext member
  rw [encodeMember, encodeMember, node_bare]
  cases checker.node member.node with
  | error e => rfl
  | ok node =>
    obtain ⟨parent, kind⟩ := node
    cases kind <;> rfl

open Encoding in
/-- The shape of a type depends on members and on what is written for them, but on no expression. -/
theorem encodeAt_bare (bound levels : Nat) :
    encodeAt checker.bare bound levels = encodeAt checker bound levels := by
  induction levels with
  | zero => rfl
  | succ levels ih =>
    funext type
    cases type with
    | object node env =>
      rw [encodeAt, encodeAt, ih, encodeObject, encodeObject, encodeMember_bare]
      rfl
    | union members => rw [encodeAt, encodeAt, ih]
    | array element => rw [encodeAt, encodeAt, ih]
    | _ => rfl

theorem encode_bare : Encoding.encode checker.bare = Encoding.encode checker := by
  funext type
  rw [Encoding.encode, Encoding.encode, encodeAt_bare]

theorem encodeNode_bare : Encoding.encodeNode checker.bare = Encoding.encodeNode checker := by
  funext id env
  rw [Encoding.encodeNode, Encoding.encodeNode, encodeAt_bare]
  rfl

theorem requestShapeOf_bare (type : CheckedType) :
    requestShapeOf checker.bare framework type = requestShapeOf checker framework type := by
  have hargument : argumentShape checker.bare = argumentShape checker := by
    funext args place
    rw [argumentShape, argumentShape, encode_bare]
  have hmember : memberShape checker.bare = memberShape checker := by
    funext objects name
    rw [memberShape, memberShape, encodeNode_bare]
    rfl
  unfold requestShapeOf
  rw [hargument, hmember]
  rfl

theorem requestShape_bare (param : NodeId) :
    requestShape checker.bare framework param = requestShape checker framework param := by
  simp only [requestShape, requestShapeOf_bare]
  rfl

theorem responseShapeOf_bare (type : CheckedType) :
    responseShapeOf checker.bare framework type = responseShapeOf checker framework type := by
  unfold responseShapeOf
  rw [encode_bare]
  rfl

theorem responseShape_bare (param : NodeId) :
    responseShape checker.bare framework param = responseShape checker framework param := by
  simp only [responseShape, responseShapeOf_bare]
  rfl

/-- The handler of an entry does not depend on what stands in object literals. -/
theorem extractEntry_bare (scope : NodeId) (entry : ObjectProperty) :
    extractEntry checker.bare framework scope { entry with value := entry.value.bare } =
      extractEntry checker framework scope entry := by
  simp only [extractEntry, handlerParams_bare, requestShape_bare, responseShape_bare]

theorem extractEntry_eq_bind (entry : ObjectProperty) : extractEntry checker framework scope entry =
    (entry.key.bind Method.ofKey?).bind fun method =>
      (handlerParams checker scope entry.value).map fun (request, response) =>
        { method
          request := requestShape checker framework request
          response := responseShape checker framework response } := by
  rw [extractEntry]
  cases entry.key with
  | none => rfl
  | some key =>
    simp only [Option.bind_eq_bind, Option.bind_some]
    cases Method.ofKey? key with
    | none => rfl
    | some method => cases handlerParams checker scope entry.value <;> rfl

theorem extractEntry_congr (h : alone.bare = checker.bare) :
    extractEntry alone framework scope entry = extractEntry checker framework scope entry := by
  rw [← extractEntry_bare, h, extractEntry_bare]

/-! ## Another value at one node -/

def NodeKind.withValue (value : Expr) : NodeKind → NodeKind
  | var name type (some _) exported => var name type (some value) exported
  | exportDefault _ => exportDefault value
  | kind => kind

/-- The checker of a program in which one node has another expression. What is called is not known there. -/
def Checker.withValue (checker : Checker) (holder : NodeId) (value : Expr) : Checker :=
  { checker with
    node := fun id => (checker.node id).map fun node =>
      if id = holder then { node with kind := node.kind.withValue value } else node
    callSignature := fun _ _ => none }

section

variable {holder id : NodeId} {value held : Expr}

namespace NodeKind

variable (kind : NodeKind)

theorem initialValue?_withValue :
    (kind.withValue value).initialValue? = kind.initialValue?.map fun _ => value := by
  cases kind with
  | var name type written exported => cases written <;> rfl
  | _ => rfl

theorem exportedValue?_withValue :
    (kind.withValue value).exportedValue? = kind.exportedValue?.map fun _ => value := by
  cases kind with
  | var name type written exported => cases written <;> rfl
  | _ => rfl

theorem bare_withValue {kind : NodeKind} (hheld : kind.exportedValue? = some held)
    (hbare : value.bare = held.bare) : (kind.withValue value).bare = kind.bare := by
  cases kind with
  | var name type written exported =>
    have hheld : written = some held := hheld
    rw [hheld, withValue, bare, bare, Option.map_some, Option.map_some, hbare]
  | exportDefault written =>
    cases hheld
    rw [withValue, bare, bare, hbare]
  | _ => cases hheld

end NodeKind

namespace Checker

theorem read_withValue {read : NodeKind → Option Expr}
    (hread : ∀ kind : NodeKind, read (kind.withValue value) = (read kind).map fun _ => value) :
    ((checker.withValue holder value).node id).toOption.bind (read ·.kind) =
      ((checker.node id).toOption.bind (read ·.kind)).map
        fun held => if id = holder then value else held := by
  simp only [Checker.withValue]
  cases checker.node id with
  | error e => rfl
  | ok node =>
    by_cases hid : id = holder
    · simp [hid, Except.map, Except.toOption, hread]
    · simp [hid, Except.map, Except.toOption]

theorem initialValue?_withValue : (checker.withValue holder value).initialValue? id =
    (checker.initialValue? id).map fun held => if id = holder then value else held :=
  read_withValue NodeKind.initialValue?_withValue

theorem exportedValue?_withValue : (checker.withValue holder value).exportedValue? id =
    (checker.exportedValue? id).map fun held => if id = holder then value else held :=
  read_withValue NodeKind.exportedValue?_withValue

theorem exportedValue?_of_initialValue? (h : checker.initialValue? id = some held) :
    checker.exportedValue? id = some held := by
  unfold initialValue? at h
  unfold exportedValue?
  obtain ⟨⟨parent, kind⟩, hnode, h⟩ := Option.bind_eq_some_iff.1 h
  rw [hnode]
  cases kind with
  | var name type written exported => exact h
  | _ => cases h

/-- Without the contents of object literals, another expression makes no difference if it makes none to
the expression itself. -/
theorem bare_withValue (hheld : checker.exportedValue? holder = some held)
    (hbare : value.bare = held.bare) : (checker.withValue holder value).bare = checker.bare := by
  have hnode : (checker.withValue holder value).bare.node = checker.bare.node := by
    funext id
    simp only [node_bare, Checker.withValue]
    cases hid : checker.node id with
    | error e => rfl
    | ok node =>
      simp only [Except.map]
      split
      · next heq =>
        subst heq
        rw [Checker.exportedValue?, hid] at hheld
        rw [Node.bare, Node.bare, NodeKind.bare_withValue hheld hbare]
      · rfl
  have hrest : (checker.withValue holder value).bare =
      { checker.bare with node := (checker.withValue holder value).bare.node } := rfl
  rw [hrest, hnode]

end Checker

theorem Follows.exportedValue?_eq {n : Nat} {scope' : NodeId} {held' : Expr}
    (h : Follows checker n scope held scope' held') (hheld : checker.exportedValue? scope = some held) :
    checker.exportedValue? scope' = some held' := by
  induction h with
  | here => exact hheld
  | next _ hinitial _ ih => exact ih (Checker.exportedValue?_of_initialValue? hinitial)

/-- The names lead to the same node if the other expression does not stand in place of a name. -/
theorem Follows.withValue {n : Nat} {scope' : NodeId} {held' : Expr} (value : Expr)
    (h : Follows checker n scope held scope' held')
    (hholder : ∀ name, checker.exportedValue? holder ≠ some (.ident name))
    (hheld : checker.exportedValue? scope = some held) :
    Follows (checker.withValue holder value) n scope (if scope = holder then value else held) scope'
      (if scope' = holder then value else held') := by
  induction h with
  | here => exact .here
  | @next n scope declared scope' name held held' hname hinitial _ ih =>
    have hne : scope ≠ holder := by
      rintro rfl
      exact hholder name hheld
    have hmoved : (checker.withValue holder value).initialValue? declared =
        some (if declared = holder then value else held) := by
      rw [Checker.initialValue?_withValue, hinitial, Option.map_some]
    rw [if_neg hne]
    exact .next hname hmoved (ih (Checker.exportedValue?_of_initialValue? hinitial))

end

/-! ## One entry alone -/

/-- A checker that says the same up to the contents of object literals and up to calls, and by which the
entry is all that the method table of the file has. -/
structure OnlyEntry (checker alone : Checker) (file : Path) (scope : NodeId) (entry : ObjectProperty) :
    Prop where
  same : alone.bare = checker.bare
  table : methodTable alone file = some (scope, [entry])

theorem OnlyEntry.extractHandlers_eq {file : Path} (h : OnlyEntry checker alone file scope entry) :
    extractHandlers alone framework file = (extractEntry checker framework scope entry).toList := by
  rw [extractHandlers, h.table, ← extractEntry_congr h.same]
  cases hentry : extractEntry alone framework scope entry with
  | none => simp [hentry]
  | some handler => simp [hentry]

theorem bare_layered (layers : List (Expr × List Expr)) {inner inner' : Expr}
    (h : inner.bare = inner'.bare) : (layered layers inner).bare = (layered layers inner').bare := by
  induction layers with
  | nil => exact h
  | cons layer layers ih => rw [layered_cons, layered_cons, Expr.bare, Expr.bare, bareAll, bareAll, ih]

section

variable {n : Nat} {file : Path} {exported tableScope : NodeId} {value inner : Expr}
  {layers : List (Expr × List Expr)} {table : List ObjectProperty}

/-- There is a checker by which an entry is the only one: where the table is written, there is one with
nothing but this entry. -/
theorem exists_onlyEntry (hdefault : checker.defaultExport file = some exported)
    (hvalue : checker.exportedValue? exported = some value) (hnames : n < maxUnwrapSteps)
    (hfollows : Follows checker n exported value scope (layered layers inner)) (hne : layers ≠ [])
    (hlayers : layers.length ≤ maxUnwrapSteps)
    (hinner : Tabulates checker scope inner tableScope table) (entry : ObjectProperty) :
    ∃ holder written, OnlyEntry checker (checker.withValue holder written) file tableScope entry := by
  have hscope : checker.exportedValue? scope = some (layered layers inner) :=
    hfollows.exportedValue?_eq hvalue
  have hdefault' (holder : NodeId) (written : Expr) :
      (checker.withValue holder written).defaultExport file = some exported := hdefault
  have hvalue' (holder : NodeId) (written : Expr) :
      (checker.withValue holder written).exportedValue? exported =
        some (if exported = holder then written else value) := by
    rw [Checker.exportedValue?_withValue, hvalue, Option.map_some]
  -- the table stands at `scope` itself, or at the variable with the name
  cases hinner with
  | literal =>
    have hholder (name : String) : checker.exportedValue? scope ≠ some (.ident name) := by
      rw [hscope]
      exact fun h => layered_ne_ident hne name (Option.some.inj h)
    have hfollows' := hfollows.withValue (layered layers (.object [entry])) hholder hvalue
    rw [if_pos rfl] at hfollows'
    refine ⟨scope, layered layers (.object [entry]), ?_, ?_⟩
    · exact Checker.bare_withValue hscope (bare_layered layers rfl)
    · exact methodTable_layered (hdefault' _ _) (hvalue' _ _) hnames hfollows' hne hlayers rfl .literal
  | @named declared name _ hname hinitial =>
    have hdeclared := Checker.exportedValue?_of_initialValue? hinitial
    have hscope_ne : scope ≠ tableScope := by
      rintro rfl
      obtain ⟨layer, layers, rfl⟩ := List.exists_cons_of_ne_nil hne
      rw [hdeclared, layered_cons] at hscope
      cases hscope
    have hholder (name : String) : checker.exportedValue? tableScope ≠ some (.ident name) := by
      rw [hdeclared]
      rintro ⟨⟩
    have hfollows' := hfollows.withValue (.object [entry]) hholder hvalue
    rw [if_neg hscope_ne] at hfollows'
    have hnamed : (checker.withValue tableScope (.object [entry])).initialValue? tableScope =
        some (.object [entry]) := by
      rw [Checker.initialValue?_withValue, hinitial, Option.map_some, if_pos rfl]
    refine ⟨tableScope, .object [entry], ?_, ?_⟩
    · exact Checker.bare_withValue hdeclared rfl
    · exact methodTable_layered (hdefault' _ _) (hvalue' _ _) hnames hfollows' hne hlayers rfl
        (.named hname hnamed)

end

theorem extractHandlers_of_no_table {file : Path} (h : methodTable checker file = none) :
    extractHandlers checker framework file = [] := by
  rw [extractHandlers, h]

/-- **Unwrapping goes layer by layer, and entries are independent.** Let names lead from the default
export to a call, and let the table be what is innermost in that call and in those that are each
other's first argument. If the names are fewer than may be followed, the layers no more, and the outermost
call is not of a function known to take nothing, the handlers of the file are those of the entries, in
order: an entry has one if its key is a verb and a function with two parameters is found behind its value.
And this handler is all that the file has by any checker that says the same but has this entry alone in the
table; to have it alone takes another expression at one node. With more layers there is no handler, nor
with more names, nor with names in a circle, be they the default export or the innermost argument. -/
theorem extractHandlers_layered (checker : Checker) (framework : Framework) (file : Path)
    {exported : NodeId} {value : Expr} (hdefault : checker.defaultExport file = some exported)
    (hvalue : checker.exportedValue? exported = some value) :
    (∀ n scope layers inner tableScope table, n < maxUnwrapSteps →
      Follows checker n exported value scope (layered layers inner) →
      layers ≠ [] → layers.length ≤ maxUnwrapSteps →
      (∀ signature, checker.callSignature scope (layered layers inner) = some signature →
        signature.params ≠ []) →
      Tabulates checker scope inner tableScope table →
      let handlerOf (entry : ObjectProperty) : Option Handler :=
        (entry.key.bind Method.ofKey?).bind fun method =>
          (handlerParams checker tableScope entry.value).map fun (request, response) =>
            { method
              request := requestShape checker framework request
              response := responseShape checker framework response }
      extractHandlers checker framework file = table.filterMap handlerOf ∧
        ∀ entry ∈ table,
          (∀ alone, OnlyEntry checker alone file tableScope entry →
            extractHandlers alone framework file = (handlerOf entry).toList) ∧
          ∃ holder written,
            OnlyEntry checker (checker.withValue holder written) file tableScope entry) ∧
      (∀ n scope layers inner, Follows checker n exported value scope (layered layers inner) →
        maxUnwrapSteps < layers.length → extractHandlers checker framework file = []) ∧
      (∀ n scope value', Follows checker n exported value scope value' → maxUnwrapSteps ≤ n →
        extractHandlers checker framework file = []) ∧
      ∀ n k m scope scope' layers name name',
        Follows checker n exported value scope (layered layers (.ident name)) →
        Follows checker k scope (.ident name) scope' (.ident name') →
        Follows checker (m + 1) scope' (.ident name') scope' (.ident name') →
        extractHandlers checker framework file = [] := by
  refine ⟨?_, ?_, ?_, ?_⟩
  · intro n scope layers inner tableScope table hnames hfollows hne hlayers hcall hinner handlerOf
    have hhandler : extractEntry checker framework tableScope = handlerOf := funext extractEntry_eq_bind
    rw [← hhandler]
    refine ⟨?_, fun entry _ => ⟨fun alone halone => halone.extractHandlers_eq, ?_⟩⟩
    · rw [extractHandlers, methodTable_layered hdefault hvalue hnames hfollows hne hlayers
        (callsWithoutParams_eq_false hcall) hinner]
    · exact exists_onlyEntry hdefault hvalue hnames hfollows hne hlayers hinner entry
  · intro n scope layers inner hfollows hlayers
    exact extractHandlers_of_no_table (methodTable_of_many_layers hdefault hvalue hlayers hfollows)
  · intro n scope value' hfollows hnames
    exact extractHandlers_of_no_table (methodTable_of_many_names hdefault hvalue hnames hfollows)
  · intro n k m scope scope' layers name name' hfollows hname hcircle
    exact extractHandlers_of_no_table (methodTable_of_circle hdefault hvalue hfollows hname hcircle)

/-- A checker of one module that has these variables, the first one being exported by default; all other
nodes are functions with two parameters, all types responses with a text. -/
def variablesChecker (declared : List (String × Expr)) : Checker where
  node id := .ok
    { parent := none
      kind := match declared[id.index]? with
        | some (name, value) => .var name none (some value) false
        | none => .function none [⟨0⟩, ⟨1⟩] false }
  symbol _ name _ := (declared.findIdx? (·.1 == name)).map NodeId.mk
  defaultExport _ := some ⟨0⟩
  typeAt _ _ := .ok (.external ⟨0⟩ "NextApiResponse" [.keyword .string])
  importOrigin _ := some "next"
  members _ := .ok []
  callSignature _ _ := some { node := ⟨9⟩, params := [⟨0⟩] }

/-- A name for two calls around a name for a table of four entries, two of them with a handler; one call too
many; and two names for each other. -/
theorem extractHandlers_layered_variables :
    let handler : Expr := .function ⟨9⟩
    let table : Expr := .object [⟨some "GET", .call .other [.other, handler]⟩, ⟨some "get", handler⟩,
      ⟨some "PUT", .ident "table"⟩, ⟨some "POST", handler⟩]
    let methods : Expr := .call (.ident "log") [.call (.ident "methods") [.ident "table", handler]]
    let file : Path := default
    extractHandlers (variablesChecker [("api", .ident "logged"), ("logged", methods), ("table", table)]) {}
        file = [⟨.get, .unknown, .primitive .string⟩, ⟨.post, .unknown, .primitive .string⟩] ∧
      extractHandlers (variablesChecker [("api", layered (List.replicate 33 (.other, [])) table)]) {}
        file = [] ∧
      extractHandlers (variablesChecker [("api", .ident "other"), ("other", .ident "api")]) {} file = [] := by
  intro handler table methods file
  refine ⟨?_, ?_, ?_⟩
  · have hfollows : Follows (variablesChecker [("api", .ident "logged"), ("logged", methods),
        ("table", table)]) 1 ⟨0⟩ (.ident "logged") ⟨1⟩ methods := .next rfl rfl .here
    obtain ⟨hlayers, -⟩ := extractHandlers_layered
      (variablesChecker [("api", .ident "logged"), ("logged", methods), ("table", table)]) {} file rfl rfl
    exact (hlayers 1 ⟨1⟩ [(.ident "log", []), (.ident "methods", [handler])] (.ident "table") ⟨2⟩ _
      (by decide) hfollows (by simp) (by decide) (by rintro _ ⟨⟩; simp) (.named rfl rfl)).1.trans rfl
  · obtain ⟨-, hmany, -⟩ := extractHandlers_layered
      (variablesChecker [("api", layered (List.replicate 33 (.other, [])) table)]) {} file rfl rfl
    exact hmany 0 ⟨0⟩ _ _ .here (by decide)
  · obtain ⟨-, -, -, hcircle⟩ := extractHandlers_layered
      (variablesChecker [("api", .ident "other"), ("other", .ident "api")]) {} file rfl rfl
    exact hcircle 0 0 1 ⟨0⟩ ⟨0⟩ [] _ _ .here .here (.next rfl rfl (.next rfl rfl .here))

end ApiShapes
