import ApiShapes.Handler.Table

/-!
# Layers of calls around a method table

* `Follows checker n scope value scope' value'` : names are followed to the values of `n` variables;
* `layered` : an expression within calls, each the first argument of the one around it;
* `Tabulates` : an expression is a table, or a name for one;
* `methodTable_layered` : within the bounds, the table at the bottom of the layers is the file's;
* `methodTable_of_many_layers`, `methodTable_of_many_names`, `methodTable_of_circle` : beyond them there is
  none.
-/

namespace ApiShapes

namespace NodeKind

def initialValue? : NodeKind → Option Expr
  | var _ _ value _ => value
  | _ => none

def exportedValue? : NodeKind → Option Expr
  | exportDefault value => some value
  | var _ _ value _ => value
  | _ => none

end NodeKind

namespace Checker

variable (checker : Checker)

def initialValue? (id : NodeId) : Option Expr :=
  (checker.node id).toOption.bind (·.kind.initialValue?)

def exportedValue? (id : NodeId) : Option Expr :=
  (checker.node id).toOption.bind (·.kind.exportedValue?)

end Checker

/-- Names are followed to the values of so many variables, one after the other. -/
inductive Follows (checker : Checker) : Nat → NodeId → Expr → NodeId → Expr → Prop
  | here {scope : NodeId} {value : Expr} : Follows checker 0 scope value scope value
  | next {n : Nat} {scope declared scope' : NodeId} {name : String} {value value' : Expr}
      (hname : checker.symbol scope name .value = some declared)
      (hvalue : checker.initialValue? declared = some value)
      (hrest : Follows checker n declared value scope' value') :
      Follows checker (n + 1) scope (.ident name) scope' value'

/-- An expression within calls, by the function and the other arguments of each call; the outermost call
comes first. -/
def layered (layers : List (Expr × List Expr)) (inner : Expr) : Expr :=
  layers.foldr (fun (callee, others) inner => .call callee (inner :: others)) inner

/-- In the module of `scope` the expression is a table, or a name for a variable whose value is one. -/
inductive Tabulates (checker : Checker) (scope : NodeId) :
    Expr → NodeId → List ObjectProperty → Prop
  | literal {table : List ObjectProperty} : Tabulates checker scope (.object table) scope table
  | named {declared : NodeId} {name : String} {table : List ObjectProperty}
      (hname : checker.symbol scope name .value = some declared)
      (hvalue : checker.initialValue? declared = some (.object table)) :
      Tabulates checker scope (.ident name) declared table

variable {checker : Checker} {n m steps : Nat} {scope scope' scope'' declared exported : NodeId}
  {value value' value'' inner : Expr} {name : String} {layers : List (Expr × List Expr)}
  {table : List ObjectProperty} {file : Path}

/-! ## Names -/

theorem followNames_ident : followNames checker (steps + 1) scope (.ident name) =
    (checker.symbol scope name .value).bind fun declared =>
      (checker.initialValue? declared).bind (followNames checker steps declared) := by
  rw [followNames]
  cases checker.symbol scope name .value with
  | none => rfl
  | some declared =>
    simp only [Option.bind_eq_bind, Option.bind_some, Checker.initialValue?]
    cases checker.node declared with
    | error e => rfl
    | ok node =>
      obtain ⟨parent, kind⟩ := node
      cases kind with
      | var name type value exported => cases value <;> rfl
      | _ => rfl

theorem followNames_of_not_ident (h : ∀ name, value ≠ .ident name) :
    followNames checker (steps + 1) scope value = some (scope, value) := by
  cases value with
  | ident name => exact absurd rfl (h name)
  | _ => rfl

theorem Follows.followNames_eq (h : Follows checker n scope value scope' value')
    (hvalue : ∀ name, value' ≠ .ident name) (hsteps : n < steps) :
    followNames checker steps scope value = some (scope', value') := by
  induction h generalizing steps with
  | here =>
    obtain ⟨steps, rfl⟩ := Nat.exists_eq_add_of_lt hsteps
    exact followNames_of_not_ident hvalue
  | next hname hinitial _ ih =>
    obtain ⟨steps, rfl⟩ := Nat.exists_eq_succ_of_ne_zero (Nat.ne_zero_of_lt hsteps)
    rw [followNames_ident, hname, Option.bind_some, hinitial, Option.bind_some]
    exact ih hvalue (by omega)

/-- There are more names than may be followed. -/
theorem Follows.followNames_eq_none (h : Follows checker n scope value scope' value')
    (hsteps : steps ≤ n) : followNames checker steps scope value = none := by
  induction h generalizing steps with
  | here =>
    obtain rfl := Nat.le_zero.1 hsteps
    rfl
  | next hname hinitial _ ih =>
    cases steps with
    | zero => rfl
    | succ steps =>
      rw [followNames_ident, hname, Option.bind_some, hinitial, Option.bind_some]
      exact ih (by omega)

theorem Follows.trans (h : Follows checker n scope value scope' value')
    (hrest : Follows checker m scope' value' scope'' value'') :
    Follows checker (n + m) scope value scope'' value'' := by
  induction h with
  | here => rwa [Nat.zero_add]
  | next hname hinitial _ ih =>
    rw [Nat.add_right_comm]
    exact .next hname hinitial (ih hrest)

/-- Names that lead back to where they start lead there any number of times. -/
theorem Follows.repeat (h : Follows checker n scope value scope value) (times : Nat) :
    Follows checker (times * n) scope value scope value := by
  induction times with
  | zero =>
    rw [Nat.zero_mul]
    exact .here
  | succ times ih =>
    rw [Nat.succ_mul]
    exact ih.trans h

/-! ## Layers -/

theorem layered_cons (layer : Expr × List Expr) :
    layered (layer :: layers) inner = .call layer.1 (layered layers inner :: layer.2) := rfl

theorem layered_ne_ident (h : layers ≠ []) (name : String) : layered layers inner ≠ .ident name := by
  obtain ⟨layer, layers, rfl⟩ := List.exists_cons_of_ne_nil h
  rw [layered_cons]
  rintro ⟨⟩

theorem objectNamed_eq : objectNamed checker scope name =
    (checker.symbol scope name .value).bind fun declared =>
      (checker.initialValue? declared).bind fun
        | .object table => some (declared, table)
        | _ => none := by
  rw [objectNamed]
  cases checker.symbol scope name .value with
  | none => rfl
  | some declared =>
    simp only [Option.bind_eq_bind, Option.bind_some, Checker.initialValue?]
    cases checker.node declared with
    | error e => rfl
    | ok node =>
      obtain ⟨parent, kind⟩ := node
      cases kind with
      | var name type value exported =>
        cases value with
        | none => rfl
        | some value => cases value <;> rfl
      | _ => rfl

theorem innermostTable_layered {tableScope : NodeId} (hinner : Tabulates checker scope inner tableScope table)
    (hne : layers ≠ []) (hsteps : layers.length ≤ steps) :
    innermostTable checker scope steps (layered layers inner) = some (tableScope, table) := by
  induction layers generalizing steps with
  | nil => exact absurd rfl hne
  | cons layer layers ih =>
    rw [List.length_cons] at hsteps
    obtain ⟨steps, rfl⟩ := Nat.exists_eq_succ_of_ne_zero (show steps ≠ 0 by omega)
    cases layers with
    | nil =>
      cases hinner with
      | literal => rfl
      | named hname hvalue =>
        calc objectNamed checker scope _ = _ := objectNamed_eq
          _ = some (tableScope, table) := by
            rw [hname, Option.bind_some, hvalue, Option.bind_some]
    | cons next layers => exact ih (by simp) (by omega)

/-- A name whose value is a name is no name for a table. -/
theorem Follows.objectNamed_eq_none {name' : String}
    (h : Follows checker (n + 1) scope (.ident name) scope' (.ident name')) :
    objectNamed checker scope name = none := by
  cases h with
  | next hname hvalue hrest =>
    rw [objectNamed_eq, hname, Option.bind_some, hvalue, Option.bind_some]
    cases hrest <;> rfl

theorem innermostTable_eq_none (hname : objectNamed checker scope name = none) :
    innermostTable checker scope steps (layered layers (.ident name)) = none := by
  induction layers generalizing steps with
  | nil => cases steps <;> rfl
  | cons layer layers ih =>
    cases steps with
    | zero => rfl
    | succ steps =>
      cases layers with
      | nil => exact hname
      | cons next layers => exact ih

theorem innermostTable_of_many_layers (hsteps : steps < layers.length) :
    innermostTable checker scope steps (layered layers inner) = none := by
  induction layers generalizing steps with
  | nil => exact absurd hsteps (Nat.not_lt_zero _)
  | cons layer layers ih =>
    cases steps with
    | zero => rfl
    | succ steps =>
      rw [List.length_cons] at hsteps
      cases layers with
      | nil => exact absurd hsteps (by simp)
      | cons next layers => exact ih (by omega)

/-! ## The default export -/

theorem exportedExpr_eq (h : checker.exportedValue? exported = some value) :
    exportedExpr checker exported = followNames checker maxUnwrapSteps exported value := by
  unfold Checker.exportedValue? at h
  rw [exportedExpr]
  cases hnode : checker.node exported with
  | error e =>
    rw [hnode] at h
    cases h
  | ok node =>
    obtain ⟨parent, kind⟩ := node
    rw [hnode] at h
    cases kind with
    | exportDefault written =>
      cases h
      rfl
    | var name type written isExported =>
      have h : written = some value := h
      rw [h]
      rfl
    | _ => cases h

theorem callsWithoutParams_eq_false
    (h : ∀ signature, checker.callSignature scope value = some signature → signature.params ≠ []) :
    callsWithoutParams checker scope value = false := by
  unfold callsWithoutParams
  cases hsignature : checker.callSignature scope value with
  | none => rfl
  | some signature => exact List.isEmpty_eq_false_iff.2 (h signature hsignature)

theorem methodTable_eq (hdefault : checker.defaultExport file = some exported)
    (hvalue : checker.exportedValue? exported = some value) :
    methodTable checker file = (followNames checker maxUnwrapSteps exported value).bind
      fun (scope, value) => if callsWithoutParams checker scope value then none
        else innermostTable checker scope maxUnwrapSteps value := by
  rw [methodTable, hdefault, Option.bind_eq_bind, Option.bind_some, exportedExpr_eq hvalue]
  rfl

section

variable (hdefault : checker.defaultExport file = some exported)
  (hvalue : checker.exportedValue? exported = some value)

include hdefault hvalue

/-- Within the bounds, the table of a file is the one at the bottom of the layers. -/
theorem methodTable_layered {tableScope : NodeId} (hnames : n < maxUnwrapSteps)
    (hfollows : Follows checker n exported value scope (layered layers inner)) (hne : layers ≠ [])
    (hlayers : layers.length ≤ maxUnwrapSteps)
    (hcall : callsWithoutParams checker scope (layered layers inner) = false)
    (hinner : Tabulates checker scope inner tableScope table) :
    methodTable checker file = some (tableScope, table) := by
  rw [methodTable_eq hdefault hvalue, hfollows.followNames_eq (layered_ne_ident hne) hnames,
    Option.bind_some]
  simp only [hcall, Bool.false_eq_true, if_false]
  exact innermostTable_layered hinner hne hlayers

theorem methodTable_of_many_names (hnames : maxUnwrapSteps ≤ n)
    (hfollows : Follows checker n exported value scope' value') : methodTable checker file = none := by
  rw [methodTable_eq hdefault hvalue, hfollows.followNames_eq_none hnames, Option.bind_none]

theorem methodTable_of_many_layers (hlayers : maxUnwrapSteps < layers.length)
    (hfollows : Follows checker n exported value scope (layered layers inner)) :
    methodTable checker file = none := by
  rcases Nat.lt_or_ge n maxUnwrapSteps with hnames | hnames
  · have hne : layers ≠ [] := List.ne_nil_of_length_pos (Nat.zero_lt_of_lt hlayers)
    rw [methodTable_eq hdefault hvalue, hfollows.followNames_eq (layered_ne_ident hne) hnames,
      Option.bind_some]
    simp only [innermostTable_of_many_layers hlayers, ite_self]
  · exact methodTable_of_many_names hdefault hvalue hnames hfollows

/-- Names that end up in a circle lead to no table, neither as the default export nor as the innermost
argument. -/
theorem methodTable_of_circle {name' : String} {k : Nat}
    (hfollows : Follows checker n exported value scope (layered layers (.ident name)))
    (hname : Follows checker k scope (.ident name) scope' (.ident name'))
    (hcircle : Follows checker (m + 1) scope' (.ident name') scope' (.ident name')) :
    methodTable checker file = none := by
  cases layers with
  | nil =>
    refine methodTable_of_many_names hdefault hvalue ?_
      ((hfollows.trans hname).trans (hcircle.repeat maxUnwrapSteps))
    calc maxUnwrapSteps ≤ maxUnwrapSteps * (m + 1) := Nat.le_mul_of_pos_right _ (Nat.succ_pos m)
      _ ≤ n + k + maxUnwrapSteps * (m + 1) := Nat.le_add_left ..
  | cons layer layers =>
    rcases Nat.lt_or_ge n maxUnwrapSteps with hnames | hnames
    · have hnone : objectNamed checker scope name = none := (hname.trans hcircle).objectNamed_eq_none
      rw [methodTable_eq hdefault hvalue,
        hfollows.followNames_eq (layered_ne_ident (List.cons_ne_nil _ _)) hnames, Option.bind_some]
      simp only [innermostTable_eq_none hnone, ite_self]
    · exact methodTable_of_many_names hdefault hvalue hnames hfollows

end

end ApiShapes
