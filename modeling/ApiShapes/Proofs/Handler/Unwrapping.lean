import ApiShapes.Handler.Table
import ApiShapes.Worklist
import Mathlib.Data.List.Basic

/-!
# The search for a handler and plain recursion

* `Unwraps checker path scope value n found` : plain recursion over an expression, which enters no
  declaration of `path` again, looks at `n` expressions and ends with `found`;
* `SearchEnds checker pending visited n found` : the search with a list of expressions to look at ends
  after `n` steps, if nothing bounds them;
* `Barren`, `Exhausted` : what the search has looked at in vain is made of nothing but what it has
  seen;
* `handlerParams_eq_unwraps` : both find the same handler.

The search enters no declaration twice. When it passes a name over because it has seen the
declaration, either this one is still being expanded, and plain recursion passes the name over as
well; or all that stands behind it has been looked at in vain, save what is still being expanded, and
plain recursion finds nothing behind it either.
-/

namespace ApiShapes

/-- What a declaration has to unwrap. -/
inductive Behind where
  /-- the declaration is a function itself -/
  | function
  /-- the value of a variable -/
  | value (value : Expr)
  | nothing

variable (checker : Checker)

def behind (declared : NodeId) : Behind :=
  match checker.node declared with
  | .ok { kind := .function .., .. } => .function
  | .ok { kind := .var _ _ (some value) _, .. } => .value value
  | _ => .nothing

/-! ## Plain recursion -/

mutual

/-- Plain recursion over an expression, within the declarations of `path`, looks at so many
expressions and ends with the parameters of the first function that has two, if there is one. A call
stands for its arguments, a name for the function or the variable's value that it means. No
declaration is entered within itself. -/
inductive Unwraps : List NodeId → NodeId → Expr → Nat → Option (NodeId × NodeId) → Prop
  | function {path : List NodeId} {scope function : NodeId} :
      Unwraps path scope (.function function) 1 (twoParams checker function)
  | undeclared {path : List NodeId} {scope : NodeId} {name : String}
      (hname : checker.symbol scope name .value = none) : Unwraps path scope (.ident name) 1 none
  | within {path : List NodeId} {scope declared : NodeId} {name : String}
      (hname : checker.symbol scope name .value = some declared) (hpath : declared ∈ path) :
      Unwraps path scope (.ident name) 1 none
  | declaredFunction {path : List NodeId} {scope declared : NodeId} {name : String}
      (hname : checker.symbol scope name .value = some declared) (hpath : declared ∉ path)
      (hbehind : behind checker declared = .function) :
      Unwraps path scope (.ident name) 1 (twoParams checker declared)
  | declaredValue {path : List NodeId} {scope declared : NodeId} {name : String} {value : Expr}
      {n : Nat} {found : Option (NodeId × NodeId)}
      (hname : checker.symbol scope name .value = some declared) (hpath : declared ∉ path)
      (hbehind : behind checker declared = .value value)
      (hvalue : Unwraps (declared :: path) declared value n found) :
      Unwraps path scope (.ident name) (n + 1) found
  | declaredNothing {path : List NodeId} {scope declared : NodeId} {name : String}
      (hname : checker.symbol scope name .value = some declared) (hpath : declared ∉ path)
      (hbehind : behind checker declared = .nothing) : Unwraps path scope (.ident name) 1 none
  | call {path : List NodeId} {scope : NodeId} {callee : Expr} {args : List Expr} {n : Nat}
      {found : Option (NodeId × NodeId)} (hargs : UnwrapsFirst path scope args n found) :
      Unwraps path scope (.call callee args) (n + 1) found
  | object {path : List NodeId} {scope : NodeId} {properties : List ObjectProperty} :
      Unwraps path scope (.object properties) 1 none
  | other {path : List NodeId} {scope : NodeId} : Unwraps path scope .other 1 none

/-- Plain recursion over expressions in order, up to the first one with a handler in it. -/
inductive UnwrapsFirst : List NodeId → NodeId → List Expr → Nat → Option (NodeId × NodeId) → Prop
  | nil {path : List NodeId} {scope : NodeId} : UnwrapsFirst path scope [] 0 none
  | found {path : List NodeId} {scope : NodeId} {value : Expr} {rest : List Expr} {n : Nat}
      {params : NodeId × NodeId} (hvalue : Unwraps path scope value n (some params)) :
      UnwrapsFirst path scope (value :: rest) n (some params)
  | next {path : List NodeId} {scope : NodeId} {value : Expr} {rest : List Expr} {n m : Nat}
      {found : Option (NodeId × NodeId)} (hvalue : Unwraps path scope value n none)
      (hrest : UnwrapsFirst path scope rest m found) :
      UnwrapsFirst path scope (value :: rest) (n + m) found

end

/-! ## The search without a bound -/

/-- One step of the search: the parameters that it ends with, or what is left to look at and what has
been seen. -/
def searchStep (scope : NodeId) (value : Expr) (rest : List (NodeId × Expr)) (visited : List NodeId) :
    (NodeId × NodeId) ⊕ (List (NodeId × Expr) × List NodeId) :=
  match value with
  | .function function =>
    match twoParams checker function with
    | some params => .inl params
    | none => .inr (rest, visited)
  | .ident name =>
    match checker.symbol scope name .value with
    | none => .inr (rest, visited)
    | some declared =>
      if declared ∈ visited then .inr (rest, visited)
      else match behind checker declared with
        | .function =>
          match twoParams checker declared with
          | some params => .inl params
          | none => .inr (rest, declared :: visited)
        | .value value => .inr ((declared, value) :: rest, declared :: visited)
        | .nothing => .inr (rest, declared :: visited)
  | .call _ args => .inr (args.map (scope, ·) ++ rest, visited)
  | .object _ => .inr (rest, visited)
  | .other => .inr (rest, visited)

/-- The search, whatever number of steps it takes, ends after `n` of them with `found`. -/
inductive SearchEnds : List (NodeId × Expr) → List NodeId → Nat → Option (NodeId × NodeId) → Prop
  | nothing {visited : List NodeId} : SearchEnds [] visited 0 none
  | found {scope : NodeId} {value : Expr} {rest : List (NodeId × Expr)} {visited : List NodeId}
      {params : NodeId × NodeId} (hstep : searchStep checker scope value rest visited = .inl params) :
      SearchEnds ((scope, value) :: rest) visited 1 (some params)
  | next {scope : NodeId} {value : Expr} {rest pending : List (NodeId × Expr)}
      {visited visited' : List NodeId} {n : Nat} {found : Option (NodeId × NodeId)}
      (hstep : searchStep checker scope value rest visited = .inr (pending, visited'))
      (hpending : SearchEnds pending visited' n found) :
      SearchEnds ((scope, value) :: rest) visited (n + 1) found

variable {checker} {scope declared : NodeId} {value : Expr} {args : List Expr} {name : String}
  {path visited visited' : List NodeId} {pending rest : List (NodeId × Expr)} {n m steps : Nat}
  {found found' : Option (NodeId × NodeId)} {params : NodeId × NodeId}

/-- The bounded search takes the same steps. -/
theorem searchHandler_succ (steps : Nat) (scope : NodeId) (value : Expr)
    (rest : List (NodeId × Expr)) (visited : List NodeId) :
    searchHandler checker (steps + 1) ((scope, value) :: rest) visited =
      match searchStep checker scope value rest visited with
      | .inl params => some params
      | .inr (pending, visited') => searchHandler checker steps pending visited' := by
  cases value with
  | function function =>
    simp only [searchHandler, searchStep]
    cases twoParams checker function <;> rfl
  | ident name =>
    simp only [searchHandler, searchStep]
    cases checker.symbol scope name .value with
    | none => rfl
    | some declared =>
      by_cases hseen : declared ∈ visited
      · simp [hseen]
      · simp only [List.contains_iff_mem, hseen, if_false]
        split
        · next hnode =>
          have hbehind : behind checker declared = .function := by simp only [behind, hnode]
          rw [hbehind]
          cases twoParams checker declared <;> rfl
        · next value _ hnode =>
          have hbehind : behind checker declared = .value value := by simp only [behind, hnode]
          rw [hbehind]
        · next hfunction hvar =>
          have hbehind : behind checker declared = .nothing := by
            unfold behind
            split
            · next hnode => exact absurd hnode (hfunction _ _ _ _)
            · next hnode => exact absurd hnode (hvar _ _ _ _ _)
            · rfl
          rw [hbehind]
  | call callee args => rfl
  | object properties => rfl
  | other => rfl

theorem searchHandler_of_le (h : SearchEnds checker pending visited n found) (hle : n ≤ steps) :
    searchHandler checker steps pending visited = found := by
  induction h generalizing steps with
  | nothing => cases steps <;> rfl
  | found hstep =>
    obtain ⟨steps, rfl⟩ := Nat.exists_eq_add_of_le' hle
    rw [searchHandler_succ, hstep]
  | next hstep _ ih =>
    obtain ⟨steps, rfl⟩ := Nat.exists_eq_add_of_le' (Nat.le_trans (Nat.le_add_left 1 _) hle)
    rw [searchHandler_succ, hstep]
    exact ih (Nat.le_of_succ_le_succ hle)

/-- A search that does not end within the bound finds nothing. -/
theorem searchHandler_eq_none (steps : Nat) (pending : List (NodeId × Expr)) (visited : List NodeId)
    (h : ∀ n found, SearchEnds checker pending visited n found → steps < n) :
    searchHandler checker steps pending visited = none := by
  induction steps generalizing pending visited with
  | zero => cases pending <;> rfl
  | succ steps ih =>
    cases pending with
    | nil => rfl
    | cons first rest =>
      obtain ⟨scope, value⟩ := first
      rw [searchHandler_succ]
      split
      · next params hstep => exact absurd (h 1 _ (.found hstep)) (by omega)
      · next pending visited' hstep =>
        refine ih pending visited' fun n found hends => ?_
        have hlt := h (n + 1) found (.next hstep hends)
        omega

/-- The search ends in one way only. -/
theorem SearchEnds.unique (h : SearchEnds checker pending visited n found)
    (h' : SearchEnds checker pending visited m found') : n = m ∧ found = found' := by
  induction h generalizing m found' with
  | nothing =>
    cases h'
    exact ⟨rfl, rfl⟩
  | found hstep =>
    cases h' with
    | found hstep' =>
      rw [hstep] at hstep'
      exact ⟨rfl, congrArg some (Sum.inl.inj hstep')⟩
    | next hstep' _ =>
      rw [hstep] at hstep'
      cases hstep'
  | next hstep _ ih =>
    cases h' with
    | found hstep' =>
      rw [hstep] at hstep'
      cases hstep'
    | next hstep' hpending =>
      rw [hstep] at hstep'
      cases hstep'
      obtain ⟨rfl, rfl⟩ := ih hpending
      exact ⟨rfl, rfl⟩

theorem searchEnds_cons : SearchEnds checker ((scope, value) :: rest) visited n found ↔
    ∃ k, n = k + 1 ∧ match searchStep checker scope value rest visited with
      | .inl params => k = 0 ∧ found = some params
      | .inr (pending, visited') => SearchEnds checker pending visited' k found := by
  constructor
  · intro h
    cases h with
    | found hstep => exact ⟨0, rfl, by rw [hstep]; exact ⟨rfl, rfl⟩⟩
    | @next _ _ _ _ _ _ k _ hstep hpending => exact ⟨k, rfl, by rw [hstep]; exact hpending⟩
  · rintro ⟨k, rfl, h⟩
    split at h
    · next hstep =>
      obtain ⟨rfl, rfl⟩ := h
      exact .found hstep
    · next hstep => exact .next hstep h

/-! ## What was looked at in vain -/

/-- The expression is made of names that are not declared or whose declarations were visited, and of
functions that are no handlers. -/
inductive Barren (checker : Checker) (visited : List NodeId) (scope : NodeId) : Expr → Prop
  | function {function : NodeId} (h : twoParams checker function = none) :
      Barren checker visited scope (.function function)
  | undeclared {name : String} (hname : checker.symbol scope name .value = none) :
      Barren checker visited scope (.ident name)
  | seen {name : String} {declared : NodeId}
      (hname : checker.symbol scope name .value = some declared) (hseen : declared ∈ visited) :
      Barren checker visited scope (.ident name)
  | call {callee : Expr} {args : List Expr}
      (hargs : ∀ arg ∈ args, Barren checker visited scope arg) :
      Barren checker visited scope (.call callee args)
  | object {properties : List ObjectProperty} : Barren checker visited scope (.object properties)
  | other : Barren checker visited scope .other

/-- There is no handler behind the declaration, save behind others that were visited. -/
def Spent (checker : Checker) (visited : List NodeId) (declared : NodeId) : Prop :=
  match behind checker declared with
  | .function => twoParams checker declared = none
  | .value value => Barren checker visited declared value
  | .nothing => True

theorem spent_iff_of_function (hbehind : behind checker declared = .function) :
    Spent checker visited declared ↔ twoParams checker declared = none := by
  simp only [Spent, hbehind]

theorem spent_iff_of_value (hbehind : behind checker declared = .value value) :
    Spent checker visited declared ↔ Barren checker visited declared value := by
  simp only [Spent, hbehind]

theorem spent_of_nothing (hbehind : behind checker declared = .nothing) :
    Spent checker visited declared := by
  simp only [Spent, hbehind]

/-- What was visited is still being expanded, on `path`, or was looked at in vain. -/
structure Exhausted (checker : Checker) (path visited : List NodeId) : Prop where
  subset : path ⊆ visited
  spent : ∀ declared ∈ visited, declared ∈ path ∨ Spent checker visited declared

theorem Barren.mono (h : Barren checker visited scope value) (hsub : visited ⊆ visited') :
    Barren checker visited' scope value := by
  induction h with
  | function h => exact .function h
  | undeclared hname => exact .undeclared hname
  | seen hname hseen => exact .seen hname (hsub hseen)
  | call _ ih => exact .call ih
  | object => exact .object
  | other => exact .other

theorem Spent.mono (h : Spent checker visited declared) (hsub : visited ⊆ visited') :
    Spent checker visited' declared := by
  unfold Spent at h ⊢
  split at h
  · exact h
  · exact h.mono hsub
  · trivial

theorem Exhausted.nil : Exhausted checker [] [] :=
  ⟨List.Subset.refl [], fun _ h => absurd h List.not_mem_nil⟩

/-- A declaration is entered. -/
theorem Exhausted.enter (h : Exhausted checker path visited) (declared : NodeId) :
    Exhausted checker (declared :: path) (declared :: visited) where
  subset := List.cons_subset_cons declared h.subset
  spent other hother := by
    rcases List.mem_cons.1 hother with rfl | hother
    · exact Or.inl List.mem_cons_self
    · rcases h.spent other hother with hpath | hspent
      · exact Or.inl (List.mem_cons_of_mem declared hpath)
      · exact Or.inr (hspent.mono (List.subset_cons_self declared visited))

/-- A declaration that was looked at in vain is left. -/
theorem Exhausted.leave (h : Exhausted checker (declared :: path) visited)
    (hspent : Spent checker visited declared) : Exhausted checker path visited where
  subset _ hother := h.subset (List.mem_cons_of_mem declared hother)
  spent other hother := by
    rcases h.spent other hother with hpath | hother
    · rcases List.mem_cons.1 hpath with rfl | hpath
      · exact Or.inr hspent
      · exact Or.inl hpath
    · exact Or.inr hother

/-- A declaration with no value to unwrap is entered and left at once. -/
theorem Exhausted.pass (h : Exhausted checker path visited)
    (hspent : Spent checker (declared :: visited) declared) :
    Exhausted checker path (declared :: visited) :=
  (h.enter declared).leave hspent

/-- The search takes its steps through what was looked at in vain and goes on behind it. -/
theorem Barren.searchEnds (h : Barren checker visited scope value) : ∃ k, ∀ rest n found,
    SearchEnds checker rest visited n found →
      SearchEnds checker ((scope, value) :: rest) visited (n + k) found := by
  induction h with
  | function h => exact ⟨1, fun rest n found hrest => .next (by simp only [searchStep, h]) hrest⟩
  | undeclared hname =>
    exact ⟨1, fun rest n found hrest => .next (by simp only [searchStep, hname]) hrest⟩
  | seen hname hseen =>
    exact ⟨1, fun rest n found hrest => .next (by simp only [searchStep, hname, if_pos hseen]) hrest⟩
  | @call callee args hbarren ih =>
    clear hbarren
    have hargs : ∃ k, ∀ rest n found, SearchEnds checker rest visited n found →
        SearchEnds checker (args.map (scope, ·) ++ rest) visited (n + k) found := by
      induction args with
      | nil => exact ⟨0, fun rest n found hrest => hrest⟩
      | cons arg args ihArgs =>
        obtain ⟨k, hfirst⟩ := ih arg List.mem_cons_self
        obtain ⟨k', hothers⟩ := ihArgs fun later hlater => ih later (List.mem_cons_of_mem arg hlater)
        refine ⟨k' + k, fun rest n found hrest => ?_⟩
        rw [← Nat.add_assoc]
        exact hfirst _ _ found (hothers rest n found hrest)
    obtain ⟨k, hargs⟩ := hargs
    exact ⟨k + 1, fun rest n found hrest => .next rfl (hargs rest n found hrest)⟩
  | object => exact ⟨1, fun rest n found hrest => .next rfl hrest⟩
  | other => exact ⟨1, fun rest n found hrest => .next rfl hrest⟩

/-- Plain recursion finds nothing in what was looked at in vain. Each declaration that it enters is one
of `left`. -/
theorem Barren.exists_unwraps {base path left : List NodeId} {scope : NodeId} {value : Expr}
    (h : Barren checker visited scope value) (hvisited : Exhausted checker base visited)
    (hbase : base ⊆ path) (hleft : ∀ declared ∈ visited, declared ∈ path ∨ declared ∈ left) :
    ∃ n, Unwraps checker path scope value n none := by
  induction h with
  | @function function h => exact ⟨1, h ▸ .function⟩
  | undeclared hname => exact ⟨1, .undeclared hname⟩
  | @seen name declared hname hseen =>
    by_cases hpath : declared ∈ path
    · exact ⟨1, .within hname hpath⟩
    · have hspent := (hvisited.spent declared hseen).resolve_left fun hmem => hpath (hbase hmem)
      have hdeclared := (hleft declared hseen).resolve_left hpath
      unfold Spent at hspent
      split at hspent
      · next hbehind => exact ⟨1, hspent ▸ .declaredFunction hname hpath hbehind⟩
      · next value hbehind =>
        have hbase' : base ⊆ declared :: path := fun _ hmem => List.mem_cons_of_mem declared (hbase hmem)
        have hleft' : ∀ d ∈ visited, d ∈ declared :: path ∨ d ∈ without declared left := by
          intro d hd
          by_cases hne : d = declared
          · exact Or.inl (hne ▸ List.mem_cons_self)
          · exact (hleft d hd).imp (List.mem_cons_of_mem declared) fun hmem => mem_without.2 ⟨hmem, hne⟩
        obtain ⟨n, hn⟩ := hspent.exists_unwraps hvisited hbase' hleft'
        exact ⟨n + 1, .declaredValue hname hpath hbehind hn⟩
      · next hbehind => exact ⟨1, .declaredNothing hname hpath hbehind⟩
  | @call callee args hbarren ih =>
    clear hbarren
    have hargs : ∃ n, UnwrapsFirst checker path scope args n none := by
      induction args with
      | nil => exact ⟨0, .nil⟩
      | cons arg args ihArgs =>
        obtain ⟨n, hfirst⟩ := ih arg List.mem_cons_self
        obtain ⟨m, hrest⟩ := ihArgs fun later hlater => ih later (List.mem_cons_of_mem arg hlater)
        exact ⟨n + m, .next hfirst hrest⟩
    obtain ⟨n, hn⟩ := hargs
    exact ⟨n + 1, .call hn⟩
  | object => exact ⟨1, .object⟩
  | other => exact ⟨1, .other⟩
termination_by left.length
decreasing_by exact length_without_lt hdeclared

/-! ## From the search to plain recursion -/

/-- What a search that ends has done about the first expressions: it has ended with what plain recursion
finds in them, or it has gone on behind them after it had looked at them in vain. -/
def Splits (checker : Checker) (path visited : List NodeId) (first rest : List (NodeId × Expr)) (n : Nat)
    (found : Option (NodeId × NodeId)) (unwraps : Nat → Option (NodeId × NodeId) → Prop) : Prop :=
  (∃ params m, found = some params ∧ unwraps m found) ∨
    ∃ k ≤ n, ∃ visited', SearchEnds checker rest visited' k found ∧
      Exhausted checker path visited' ∧ visited ⊆ visited' ∧
        ∀ item ∈ first, Barren checker visited' item.1 item.2

/-- The search has passed one expression over. -/
theorem Splits.pass {unwraps : Nat → Option (NodeId × NodeId) → Prop} (hle : m ≤ n)
    (hrest : SearchEnds checker rest visited' m found) (hvisited : Exhausted checker path visited')
    (hsub : visited ⊆ visited') (hbarren : Barren checker visited' scope value) :
    Splits checker path visited [(scope, value)] rest n found unwraps := by
  refine Or.inr ⟨m, hle, visited', hrest, hvisited, hsub, fun item hitem => ?_⟩
  rw [List.mem_singleton.1 hitem]
  exact hbarren

/-- Searches of at most `n` steps behind their first one agree with plain recursion on their first
expression. -/
def SplitsWithin (checker : Checker) (n : Nat) : Prop :=
  ∀ {path visited : List NodeId} {scope : NodeId} {value : Expr} {rest : List (NodeId × Expr)} {k : Nat}
    {found : Option (NodeId × NodeId)}, k < n →
      SearchEnds checker ((scope, value) :: rest) visited (k + 1) found → Exhausted checker path visited →
        Splits checker path visited [(scope, value)] rest k found (Unwraps checker path scope value)

/-- A name whose declaration has not been visited is entered. -/
theorem splits_name (ih : SplitsWithin checker n) (hvisited : Exhausted checker path visited)
    (hname : checker.symbol scope name .value = some declared) (hnew : declared ∉ visited)
    (h : SearchEnds checker ((scope, .ident name) :: rest) visited (n + 1) found) :
    Splits checker path visited [(scope, .ident name)] rest n found
      (Unwraps checker path scope (.ident name)) := by
  have hpath : declared ∉ path := fun hmem => hnew (hvisited.subset hmem)
  have hsub : visited ⊆ declared :: visited := List.subset_cons_self declared visited
  have hbarren : Barren checker (declared :: visited) scope (.ident name) :=
    .seen hname List.mem_cons_self
  obtain ⟨k, hk, h⟩ := searchEnds_cons.1 h
  obtain rfl : n = k := Nat.succ.inj hk
  simp only [searchStep, hname, if_neg hnew] at h
  cases hbehind : behind checker declared with
  | function =>
    rw [hbehind] at h
    cases hparams : twoParams checker declared with
    | some params =>
      rw [hparams] at h
      have hfound := Unwraps.declaredFunction hname hpath hbehind
      rw [hparams, ← h.2] at hfound
      exact Or.inl ⟨params, 1, h.2, hfound⟩
    | none =>
      rw [hparams] at h
      have hspent : Spent checker (declared :: visited) declared :=
        (spent_iff_of_function hbehind).2 hparams
      exact .pass (Nat.le_refl n) h (hvisited.pass hspent) hsub hbarren
  | value value =>
    rw [hbehind] at h
    obtain ⟨k, rfl, -⟩ := searchEnds_cons.1 h
    rcases ih (Nat.lt_succ_self k) h (hvisited.enter declared) with
      ⟨params, m, hfound, hvalue⟩ | ⟨m, hm, visited', hrest, hvisited', hsub', hvalue⟩
    · exact Or.inl ⟨params, m + 1, hfound, .declaredValue hname hpath hbehind hvalue⟩
    · have hspent : Spent checker visited' declared :=
        (spent_iff_of_value hbehind).2 (hvalue _ List.mem_cons_self)
      exact .pass (Nat.le_succ_of_le hm) hrest (hvisited'.leave hspent) (List.Subset.trans hsub hsub')
        (hbarren.mono hsub')
  | nothing =>
    rw [hbehind] at h
    exact .pass (Nat.le_refl n) h (hvisited.pass (spent_of_nothing hbehind)) hsub hbarren

/-- The arguments of a call are looked at one after the other. -/
theorem splits_args (ih : SplitsWithin checker n) (args : List Expr) {k : Nat} (hk : k ≤ n)
    (hvisited : Exhausted checker path visited)
    (h : SearchEnds checker (args.map (scope, ·) ++ rest) visited k found) :
    Splits checker path visited (args.map (scope, ·)) rest k found
      (UnwrapsFirst checker path scope args) := by
  induction args generalizing k visited with
  | nil =>
    exact Or.inr ⟨k, Nat.le_refl k, visited, h, hvisited, List.Subset.refl visited,
      fun _ hitem => absurd hitem List.not_mem_nil⟩
  | cons arg args ihArgs =>
    obtain ⟨k, rfl, -⟩ := searchEnds_cons.1 h
    rcases ih hk h hvisited with
      ⟨params, m, hfound, hvalue⟩ | ⟨k', hk', visited', hrest, hvisited', hsub', hvalue⟩
    · refine Or.inl ⟨params, m, hfound, ?_⟩
      rw [hfound] at hvalue ⊢
      exact .found hvalue
    · have harg : Barren checker visited' scope arg := hvalue _ List.mem_cons_self
      rcases ihArgs (by omega) hvisited' hrest with
        ⟨params, m, hfound, hothers⟩ | ⟨i, hi, visited'', hrest, hvisited'', hsub'', hothers⟩
      · obtain ⟨m', harg⟩ := harg.exists_unwraps hvisited' (List.Subset.refl path) fun _ hd => Or.inr hd
        exact Or.inl ⟨params, m' + m, hfound, .next harg hothers⟩
      · exact Or.inr ⟨i, by omega, visited'', hrest, hvisited'', List.Subset.trans hsub' hsub'',
          List.forall_mem_cons.2 ⟨harg.mono hsub'', hothers⟩⟩

/-- Plain recursion finds what the search finds, expression by expression. -/
theorem splitsWithin (checker : Checker) (n : Nat) : SplitsWithin checker n := by
  induction n with
  | zero => exact fun hlt => absurd hlt (Nat.not_lt_zero _)
  | succ n ih =>
    intro path visited scope value rest k found hlt h hvisited
    rcases Nat.lt_succ_iff_lt_or_eq.1 hlt with hlt | rfl
    · exact ih hlt h hvisited
    have hself : visited ⊆ visited := List.Subset.refl visited
    obtain ⟨k', hk, hstep⟩ := searchEnds_cons.1 h
    obtain rfl : k = k' := Nat.succ.inj hk
    cases value with
    | function function =>
      simp only [searchStep] at hstep
      cases hparams : twoParams checker function with
      | some params =>
        rw [hparams] at hstep
        have hfound : Unwraps checker path scope (.function function) 1 found := by
          rw [hstep.2, ← hparams]
          exact .function
        exact Or.inl ⟨params, 1, hstep.2, hfound⟩
      | none =>
        rw [hparams] at hstep
        exact .pass (Nat.le_refl k) hstep hvisited hself (.function hparams)
    | ident name =>
      cases hname : checker.symbol scope name .value with
      | none =>
        simp only [searchStep, hname] at hstep
        exact .pass (Nat.le_refl k) hstep hvisited hself (.undeclared hname)
      | some declared =>
        by_cases hseen : declared ∈ visited
        · simp only [searchStep, hname, if_pos hseen] at hstep
          exact .pass (Nat.le_refl k) hstep hvisited hself (.seen hname hseen)
        · exact splits_name ih hvisited hname hseen h
    | call callee args =>
      rcases splits_args ih args (Nat.le_refl k) hvisited hstep with
        ⟨params, m, hfound, hargs⟩ | ⟨m, hm, visited', hrest, hvisited', hsub, hargs⟩
      · exact Or.inl ⟨params, m + 1, hfound, .call hargs⟩
      · refine .pass hm hrest hvisited' hsub (.call fun arg harg => ?_)
        exact hargs (scope, arg) (List.mem_map.2 ⟨arg, harg, rfl⟩)
    | object properties => exact .pass (Nat.le_refl k) hstep hvisited hself .object
    | other => exact .pass (Nat.le_refl k) hstep hvisited hself .other

/-! ## From plain recursion to the search -/

/-- Within `m` steps the search ends in the first expressions with the parameters found, or goes on
behind them after it has looked at them in vain. -/
def Passes (checker : Checker) (path visited : List NodeId) (first : List (NodeId × Expr)) (m : Nat) :
    Option (NodeId × NodeId) → Prop
  | some params => ∃ n ≤ m, ∀ rest, SearchEnds checker (first ++ rest) visited n (some params)
  | none => ∃ n ≤ m, ∃ visited', Exhausted checker path visited' ∧ visited ⊆ visited' ∧
      (∀ item ∈ first, Barren checker visited' item.1 item.2) ∧
        ∀ rest k found, SearchEnds checker rest visited' k found →
          SearchEnds checker (first ++ rest) visited (k + n) found

/-- One step ends the search. -/
theorem passes_found (hstep : ∀ rest, searchStep checker scope value rest visited = .inl params) :
    Passes checker path visited [(scope, value)] 1 (some params) :=
  ⟨1, Nat.le_refl 1, fun rest => .found (hstep rest)⟩

/-- One step leads behind the expression. -/
theorem passes_none (hvisited : Exhausted checker path visited') (hsub : visited ⊆ visited')
    (hbarren : Barren checker visited' scope value)
    (hstep : ∀ rest, searchStep checker scope value rest visited = .inr (rest, visited')) :
    Passes checker path visited [(scope, value)] 1 none := by
  refine ⟨1, Nat.le_refl 1, visited', hvisited, hsub, fun item hitem => ?_, fun rest k found h => ?_⟩
  · rw [List.mem_singleton.1 hitem]
    exact hbarren
  · exact .next (hstep rest) h

theorem passes_seen (hvisited : Exhausted checker path visited)
    (hname : checker.symbol scope name .value = some declared) (hseen : declared ∈ visited) :
    Passes checker path visited [(scope, .ident name)] 1 none := by
  refine passes_none hvisited (List.Subset.refl visited) (.seen hname hseen) fun rest => ?_
  simp only [searchStep, hname, if_pos hseen]

theorem passes_function (hvisited : Exhausted checker path visited)
    (hname : checker.symbol scope name .value = some declared) (hpath : declared ∉ path)
    (hbehind : behind checker declared = .function) :
    Passes checker path visited [(scope, .ident name)] 1 (twoParams checker declared) := by
  by_cases hseen : declared ∈ visited
  · have hspent := (hvisited.spent declared hseen).resolve_left hpath
    rw [(spent_iff_of_function hbehind).1 hspent]
    exact passes_seen hvisited hname hseen
  · cases hparams : twoParams checker declared with
    | some params =>
      refine passes_found fun rest => ?_
      simp only [searchStep, hname, if_neg hseen, hbehind, hparams]
    | none =>
      have hspent : Spent checker (declared :: visited) declared :=
        (spent_iff_of_function hbehind).2 hparams
      refine passes_none (hvisited.pass hspent) (List.subset_cons_self declared visited)
        (.seen hname List.mem_cons_self) fun rest => ?_
      simp only [searchStep, hname, if_neg hseen, hbehind, hparams]

theorem passes_value (hvisited : Exhausted checker path visited)
    (hname : checker.symbol scope name .value = some declared) (hpath : declared ∉ path)
    (hbehind : behind checker declared = .value value)
    (hvalue : ∀ visited, Exhausted checker (declared :: path) visited →
      Passes checker (declared :: path) visited [(declared, value)] m found) :
    Passes checker path visited [(scope, .ident name)] (m + 1) found := by
  have hsub : visited ⊆ declared :: visited := List.subset_cons_self declared visited
  by_cases hseen : declared ∈ visited
  · have hspent := (hvisited.spent declared hseen).resolve_left hpath
    obtain ⟨k, hk⟩ := ((spent_iff_of_value hbehind).1 hspent).searchEnds
    have hnone : SearchEnds checker [(declared, value)] visited (0 + k) none := hk [] 0 none .nothing
    cases found with
    | some params =>
      -- the search would find the handler behind a declaration that it has looked at in vain
      have hwithin : Exhausted checker (declared :: path) visited :=
        ⟨List.cons_subset.2 ⟨hseen, hvisited.subset⟩, fun d hd =>
          (hvisited.spent d hd).imp_left (List.mem_cons_of_mem declared)⟩
      obtain ⟨n, -, hsome⟩ := hvalue visited hwithin
      cases (hnone.unique (hsome [])).2
    | none =>
      obtain ⟨n, hn, h⟩ := passes_seen hvisited hname hseen
      exact ⟨n, by omega, h⟩
  · have hstep : ∀ rest, searchStep checker scope (.ident name) rest visited =
        .inr ((declared, value) :: rest, declared :: visited) := by
      intro rest
      simp only [searchStep, hname, if_neg hseen, hbehind]
    have hpasses := hvalue (declared :: visited) (hvisited.enter declared)
    cases found with
    | some params =>
      obtain ⟨n, hn, h⟩ := hpasses
      exact ⟨n + 1, by omega, fun rest => .next (hstep rest) (h rest)⟩
    | none =>
      obtain ⟨n, hn, visited', hvisited', hsub', hbarren, h⟩ := hpasses
      have hspent : Spent checker visited' declared :=
        (spent_iff_of_value hbehind).2 (hbarren _ List.mem_cons_self)
      refine ⟨n + 1, by omega, visited', hvisited'.leave hspent, List.Subset.trans hsub hsub', ?_, ?_⟩
      · intro item hitem
        rw [List.mem_singleton.1 hitem]
        exact .seen hname (hsub' List.mem_cons_self)
      · exact fun rest k found hrest => .next (hstep rest) (h rest k found hrest)

theorem passes_nothing (hvisited : Exhausted checker path visited)
    (hname : checker.symbol scope name .value = some declared)
    (hbehind : behind checker declared = .nothing) :
    Passes checker path visited [(scope, .ident name)] 1 none := by
  by_cases hseen : declared ∈ visited
  · exact passes_seen hvisited hname hseen
  · refine passes_none (hvisited.pass (spent_of_nothing hbehind)) (List.subset_cons_self declared visited)
      (.seen hname List.mem_cons_self) fun rest => ?_
    simp only [searchStep, hname, if_neg hseen, hbehind]

mutual

/-- The search finds what plain recursion finds in an expression, in no more steps. -/
theorem Unwraps.passes : ∀ {path visited : List NodeId} {scope : NodeId} {value : Expr} {m : Nat}
    {found : Option (NodeId × NodeId)}, Unwraps checker path scope value m found →
      Exhausted checker path visited → Passes checker path visited [(scope, value)] m found
  | _, visited, _, _, _, _, @Unwraps.function _ _ _ function, hvisited => by
    cases hparams : twoParams checker function with
    | some params =>
      refine passes_found fun rest => ?_
      simp only [searchStep, hparams]
    | none =>
      refine passes_none hvisited (List.Subset.refl visited) (.function hparams) fun rest => ?_
      simp only [searchStep, hparams]
  | _, visited, _, _, _, _, .undeclared hname, hvisited => by
    refine passes_none hvisited (List.Subset.refl visited) (.undeclared hname) fun rest => ?_
    simp only [searchStep, hname]
  | _, _, _, _, _, _, .within hname hpath, hvisited =>
    passes_seen hvisited hname (hvisited.subset hpath)
  | _, _, _, _, _, _, .declaredFunction hname hpath hbehind, hvisited =>
    passes_function hvisited hname hpath hbehind
  | _, _, _, _, _, _, .declaredValue hname hpath hbehind hvalue, hvisited =>
    passes_value hvisited hname hpath hbehind fun _ h => Unwraps.passes hvalue h
  | _, _, _, _, _, _, .declaredNothing hname _ hbehind, hvisited =>
    passes_nothing hvisited hname hbehind
  | _, _, _, _, _, found, .call hargs, hvisited => by
    have hpasses := UnwrapsFirst.passes hargs hvisited
    cases found with
    | some params =>
      obtain ⟨n, hn, h⟩ := hpasses
      exact ⟨n + 1, by omega, fun rest => .next rfl (h rest)⟩
    | none =>
      obtain ⟨n, hn, visited', hvisited', hsub, hbarren, h⟩ := hpasses
      refine ⟨n + 1, by omega, visited', hvisited', hsub, fun item hitem => ?_, ?_⟩
      · rw [List.mem_singleton.1 hitem]
        exact .call fun arg harg => hbarren _ (List.mem_map.2 ⟨arg, harg, rfl⟩)
      · exact fun rest k found hrest => .next rfl (h rest k found hrest)
  | _, visited, _, _, _, _, .object, hvisited =>
    passes_none hvisited (List.Subset.refl visited) .object fun _ => rfl
  | _, visited, _, _, _, _, .other, hvisited =>
    passes_none hvisited (List.Subset.refl visited) .other fun _ => rfl

/-- So it does for expressions in order. -/
theorem UnwrapsFirst.passes : ∀ {path visited : List NodeId} {scope : NodeId} {args : List Expr}
    {m : Nat} {found : Option (NodeId × NodeId)}, UnwrapsFirst checker path scope args m found →
      Exhausted checker path visited → Passes checker path visited (args.map (scope, ·)) m found
  | _, visited, _, _, _, _, .nil, hvisited =>
    ⟨0, Nat.le_refl 0, visited, hvisited, List.Subset.refl visited,
      fun _ hitem => absurd hitem List.not_mem_nil, fun _ _ _ h => h⟩
  | _, _, _, _, _, _, .found hvalue, hvisited => by
    obtain ⟨n, hn, h⟩ := Unwraps.passes hvalue hvisited
    exact ⟨n, hn, fun rest => h _⟩
  | _, _, _, _, _, found, .next hvalue hrest, hvisited => by
    obtain ⟨n, hn, visited', hvisited', hsub, hbarren, h⟩ := Unwraps.passes hvalue hvisited
    have hpasses := UnwrapsFirst.passes hrest hvisited'
    have hfirst : Barren checker visited' _ _ := hbarren _ List.mem_cons_self
    cases found with
    | some params =>
      obtain ⟨n', hn', h'⟩ := hpasses
      exact ⟨n' + n, by omega, fun rest => h _ n' _ (h' rest)⟩
    | none =>
      obtain ⟨n', hn', visited'', hvisited'', hsub', hbarren', h'⟩ := hpasses
      refine ⟨n' + n, by omega, visited'', hvisited'', List.Subset.trans hsub hsub', ?_, ?_⟩
      · exact List.forall_mem_cons.2 ⟨hfirst.mono hsub', hbarren'⟩
      · intro rest k found hrest
        rw [← Nat.add_assoc]
        exact h _ _ found (h' rest k found hrest)

end

/-! ## The handler behind a table entry -/

/-- **The search finds the handler that plain recursion finds.** If the search for the handler of an
expression comes to an end, so does plain recursion, and with the same result; the handler is that
result if the search took no more steps than allowed, and there is none otherwise, or if the search
has no end. And if plain recursion comes to an end, the search does in no more steps, so that the
result is the only one. -/
theorem handlerParams_eq_unwraps (checker : Checker) (scope : NodeId) (value : Expr) :
    (∀ n found, SearchEnds checker [(scope, value)] [] n found →
      (∃ m, Unwraps checker [] scope value m found) ∧
        handlerParams checker scope value = if n ≤ maxUnwrapSteps then found else none) ∧
      ((∀ n found, ¬SearchEnds checker [(scope, value)] [] n found) →
        handlerParams checker scope value = none) ∧
      ∀ m found, Unwraps checker [] scope value m found →
        ∃ n ≤ m, SearchEnds checker [(scope, value)] [] n found := by
  refine ⟨fun n found h => ⟨?_, ?_⟩, fun h => ?_, fun m found h => ?_⟩
  · obtain ⟨n, rfl, -⟩ := searchEnds_cons.1 h
    rcases splitsWithin checker (n + 1) (Nat.lt_succ_self n) h .nil with
      ⟨params, m, -, hvalue⟩ | ⟨k, -, visited, hrest, hvisited, -, hbarren⟩
    · exact ⟨m, hvalue⟩
    · cases hrest
      exact (hbarren _ List.mem_cons_self).exists_unwraps hvisited (List.Subset.refl [])
        fun _ hd => Or.inr hd
  · split
    · next hle => exact searchHandler_of_le h hle
    · next hlt =>
      refine searchHandler_eq_none _ _ _ fun m found' h' => ?_
      obtain ⟨rfl, -⟩ := h.unique h'
      omega
  · exact searchHandler_eq_none _ _ _ fun n found hends => absurd hends (h n found)
  · have hstart : Exhausted checker [] [] := .nil
    have hpasses := h.passes hstart
    cases found with
    | some params =>
      obtain ⟨n, hn, h⟩ := hpasses
      exact ⟨n, hn, h []⟩
    | none =>
      obtain ⟨n, hn, visited', -, -, -, h⟩ := hpasses
      refine ⟨n, hn, ?_⟩
      have hends := h [] 0 none .nothing
      rwa [Nat.zero_add] at hends

end ApiShapes
