import ApiShapes.Proofs.Program.Answers
import ApiShapes.Proofs.Program.Unions
import Mathlib.Logic.Relation

/-!
# How deep declarations are expanded

* `Program.Leads` : the type expressions that are met while one is resolved, within it, and in the types
  and defaults of the declarations that it names, which are one level deeper;
* `Program.Fits` : no declaration is named below so many levels or more;
* `Program.resolveWith_isOk_iff` : a type expression is resolved exactly if it fits;
* `Program.fits_of_rankFalls` : where no declaration leads back to itself, a rank that falls bounds the
  levels;
* `Program.AliasChain.fits_iff` : a name for the first of a chain of aliases fits if the chain is no longer
  than there are levels;
* `Program.not_fits_of_again` : what is expanded within its own expansion does not fit.
-/

namespace ApiShapes

/-- The type expressions right within one that are resolved along with it. An object type is not looked
into. -/
def TypeExpr.parts : TypeExpr → List TypeExpr
  | .array element => [element]
  | .union members => members
  | .intersection members => members
  | .reference _ args => args
  | _ => []

def NodeKind.aliased? : NodeKind → Option TypeExpr
  | .typeAlias _ _ type _ => some type
  | _ => none

def NodeKind.typeParams : NodeKind → List TypeParam
  | .typeAlias _ params .. => params
  | .interface _ params .. => params
  | _ => []

namespace Program

/-- A type expression that is met in the module of `scope`, below `level` declarations that are being
expanded, where the names in `bound` are those of type parameters. -/
structure Phrase where
  scope : NodeId
  bound : List String
  level : Nat
  written : TypeExpr

def Phrase.lower (phrase : Phrase) (levels : Nat) : Phrase :=
  { phrase with level := phrase.level + levels }

section

variable (p : Program)

/-- The phrase is a name for the declaration, with arguments. -/
def Names (phrase : Phrase) (declared : NodeId) (args : List TypeExpr) : Prop :=
  ∃ name, phrase.written = .reference name args ∧ (args = [] → name ∉ phrase.bound) ∧
    p.symbol phrase.scope name .type = some declared

/-- What is resolved where a declaration is expanded with `count` arguments: the type of an alias, and
the defaults of further type parameters, each of which knows those before it. -/
inductive Opens (declared : NodeId) (count level : Nat) : Phrase → Prop
  | body {kind : NodeKind} {type : TypeExpr} (hkind : p.arena.kind? declared = some kind)
      (haliased : kind.aliased? = some type) :
      Opens declared count level ⟨declared, kind.typeParams.map (·.name), level, type⟩
  | default {kind : NodeKind} {i : Nat} {type : TypeExpr} (hcount : count ≤ i)
      (hkind : p.arena.kind? declared = some kind)
      (hdefault : kind.typeParams[i]?.bind (·.default) = some type) :
      Opens declared count level ⟨declared, (kind.typeParams.take i).map (·.name), level, type⟩

/-- While the first phrase is resolved, the second one is met next. -/
inductive Leads : Phrase → Phrase → Prop
  | part {phrase : Phrase} {written : TypeExpr} (h : written ∈ phrase.written.parts) :
      Leads phrase { phrase with written }
  | opens {phrase next : Phrase} {declared : NodeId} {args : List TypeExpr}
      (hnames : p.Names phrase declared args)
      (hopens : p.Opens declared args.length (phrase.level + 1) next) : Leads phrase next

/-- While the first phrase is resolved, the second one is met. -/
def Meets : Phrase → Phrase → Prop :=
  Relation.ReflTransGen p.Leads

/-- Whatever declaration is named is named below fewer than `depth` further levels. -/
def Fits (depth : Nat) (phrase : Phrase) : Prop :=
  ∀ met declared args, p.Meets phrase met → p.Names met declared args →
    met.level < phrase.level + depth

end

variable {p : Program} {phrase next met : Phrase} {declared scope : NodeId} {args : List TypeExpr}
  {depth level count : Nat} {bound : List String} {written : TypeExpr}

theorem Opens.level_eq (h : p.Opens declared count level next) : next.level = level := by
  cases h <;> rfl

/-- A phrase fits if its parts do and, one level deeper, what is opened by the name that it is. -/
theorem fits_iff : p.Fits depth phrase ↔
    (∀ declared args, p.Names phrase declared args → 0 < depth) ∧
    (∀ written ∈ phrase.written.parts, p.Fits depth { phrase with written }) ∧
    ∀ declared args next, p.Names phrase declared args →
      p.Opens declared args.length (phrase.level + 1) next → p.Fits (depth - 1) next := by
  constructor
  · intro h
    have hpos : ∀ declared args, p.Names phrase declared args → 0 < depth := by
      intro declared args hnames
      have hlevel := h phrase declared args .refl hnames
      omega
    refine ⟨hpos, fun written hwritten met declared args hmeets hnames => ?_,
      fun declared args next hnamed hopens met declared' args' hmeets hnames => ?_⟩
    · exact h met declared args (.head (.part hwritten) hmeets) hnames
    · have hlevel := h met declared' args' (.head (.opens hnamed hopens) hmeets) hnames
      have hnext := hopens.level_eq
      have hdepth := hpos declared args hnamed
      omega
  · rintro ⟨hpos, hparts, hopens⟩ met declared args hmeets hnames
    rcases hmeets.cases_head with rfl | ⟨next, hleads, hmeets⟩
    · have hdepth := hpos declared args hnames
      omega
    · cases hleads with
      | part hwritten => exact hparts _ hwritten met declared args hmeets hnames
      | @opens _ declared' args' hnamed hopened =>
        have hlevel := hopens declared' args' next hnamed hopened met declared args hmeets hnames
        have hnext := hopened.level_eq
        have hdepth := hpos declared' args' hnamed
        omega

/-- A phrase that is no name fits if its parts do. -/
theorem fits_iff_parts (h : ∀ name args, written ≠ .reference name args) :
    p.Fits depth ⟨scope, bound, level, written⟩ ↔
      ∀ part ∈ written.parts, p.Fits depth ⟨scope, bound, level, part⟩ := by
  have hnames : ∀ declared args, ¬ p.Names ⟨scope, bound, level, written⟩ declared args :=
    fun declared args ⟨name, hname, _⟩ => h name args hname
  rw [fits_iff]
  exact ⟨fun ⟨_, hparts, _⟩ => hparts, fun hparts =>
    ⟨fun _ _ hnamed => absurd hnamed (hnames _ _), hparts,
      fun _ _ _ hnamed => absurd hnamed (hnames _ _)⟩⟩

theorem fits_of_leaf (h : ∀ name args, written ≠ .reference name args) (hleaf : written.parts = []) :
    p.Fits depth ⟨scope, bound, level, written⟩ := by
  rw [fits_iff_parts h, hleaf]
  simp

/-! ## What fits is resolved -/

section Resolving

variable {instantiate : Instantiate} {env : Env}

/-- Expanding a declaration succeeds exactly if what it opens fits. -/
def ExpandsFitting (p : Program) (depth level : Nat) (instantiate : Instantiate) : Prop :=
  ∀ declared name args, p.IsMeant declared → ((∃ type, instantiate declared name args = .ok type) ↔
    0 < depth ∧ ∀ next, p.Opens declared args.length (level + 1) next → p.Fits (depth - 1) next)

theorem length_of_resolveAll {written : List TypeExpr} {types : List CheckedType}
    (h : p.resolveAll instantiate scope env written = .ok types) : types.length = written.length :=
  (resolveAll_eq_ok.1 h).length_eq.symm

/-- A name fits if its arguments do, and what it opens where no type parameter has the name. -/
theorem fits_reference {name : String} : p.Fits depth ⟨scope, bound, level, .reference name args⟩ ↔
    (∀ arg ∈ args, p.Fits depth ⟨scope, bound, level, arg⟩) ∧
      ((args = [] → name ∉ bound) → ∀ declared, p.symbol scope name .type = some declared →
        0 < depth ∧ ∀ next, p.Opens declared args.length (level + 1) next → p.Fits (depth - 1) next) := by
  rw [fits_iff]
  constructor
  · rintro ⟨hpos, hparts, hopens⟩
    refine ⟨hparts, fun hfree declared hdeclared => ?_⟩
    have hnames : p.Names ⟨scope, bound, level, .reference name args⟩ declared args :=
      ⟨name, rfl, hfree, hdeclared⟩
    exact ⟨hpos declared args hnames, fun next hnext => hopens declared args next hnames hnext⟩
  · rintro ⟨hparts, hopens⟩
    refine ⟨?_, hparts, ?_⟩
    · rintro declared _ ⟨_, ⟨⟩, hfree, hdeclared⟩
      exact (hopens hfree declared hdeclared).1
    · rintro declared _ next ⟨_, ⟨⟩, hfree, hdeclared⟩ hnext
      exact (hopens hfree declared hdeclared).2 next hnext

theorem lookup_isSome_iff {name : String} :
    (env.lookup name).isSome = true ↔ name ∈ env.map (·.1) := by
  rw [List.lookup_isSome_iff, List.mem_map]
  exact exists_congr fun _ => and_congr_right fun _ => beq_iff_eq.trans eq_comm

theorem resolveWith_reference_fits (hinst : p.ExpandsFitting depth level instantiate) {name : String}
    (hargs : (∃ types, p.resolveAll instantiate scope env args = .ok types) ↔
      ∀ arg ∈ args, p.Fits depth ⟨scope, env.map (·.1), level, arg⟩) :
    (∃ type, p.resolveWith instantiate scope env (.reference name args) = .ok type) ↔
      p.Fits depth ⟨scope, env.map (·.1), level, .reference name args⟩ := by
  rw [fits_reference, ← hargs]
  unfold resolveWith
  split
  · next bound hbound =>
    -- the meaning of a type parameter, which has no arguments
    split at hbound
    · next hempty =>
      obtain rfl : args = [] := List.isEmpty_iff.1 hempty
      have hmem : name ∈ env.map (·.1) := lookup_isSome_iff.1 (Option.isSome_of_eq_some hbound)
      exact iff_of_true ⟨bound, rfl⟩ ⟨⟨[], rfl⟩, fun hfree => absurd hmem (hfree rfl)⟩
    · cases hbound
  · next hbound =>
    have hfree : args = [] → name ∉ env.map (·.1) := by
      rintro rfl hmem
      rw [← lookup_isSome_iff, show env.lookup name = none from hbound] at hmem
      cases hmem
    rw [exists_bind_eq_ok]
    constructor
    · rintro ⟨types, htypes, htype⟩
      refine ⟨⟨types, htypes⟩, fun _ declared hdeclared => ?_⟩
      rw [hdeclared, hinst declared name types (symbol_isMeant hdeclared),
        length_of_resolveAll htypes] at htype
      exact htype
    · rintro ⟨⟨types, htypes⟩, hopens⟩
      refine ⟨types, htypes, ?_⟩
      split
      · next declared hdeclared =>
        rw [hinst declared name types (symbol_isMeant hdeclared), length_of_resolveAll htypes]
        exact hopens hfree declared hdeclared
      · exact ⟨_, rfl⟩

mutual

theorem resolveWith_fits (hinst : p.ExpandsFitting depth level instantiate) : ∀ written : TypeExpr,
    (∃ type, p.resolveWith instantiate scope env written = .ok type) ↔
      p.Fits depth ⟨scope, env.map (·.1), level, written⟩
  | .keyword _ => iff_of_true ⟨_, rfl⟩ (fits_of_leaf (by simp) rfl)
  | .literal _ => iff_of_true ⟨_, rfl⟩ (fits_of_leaf (by simp) rfl)
  | .array element => by
    rw [fits_iff_parts (by simp), resolveWith, exists_return_eq_ok, resolveWith_fits hinst element]
    simp [TypeExpr.parts]
  | .union members => by
    rw [fits_iff_parts (by simp), resolveWith, exists_return_eq_ok, resolveAll_fits hinst members]
    rfl
  | .intersection members => by
    rw [fits_iff_parts (by simp), resolveWith, exists_return_eq_ok, resolveAll_fits hinst members]
    rfl
  | .object _ => iff_of_true ⟨_, rfl⟩ (fits_of_leaf (by simp) rfl)
  | .function => iff_of_true ⟨_, rfl⟩ (fits_of_leaf (by simp) rfl)
  | .unsupported _ => iff_of_true ⟨_, rfl⟩ (fits_of_leaf (by simp) rfl)
  | .reference _ args => resolveWith_reference_fits hinst (resolveAll_fits hinst args)

theorem resolveAll_fits (hinst : p.ExpandsFitting depth level instantiate) :
    ∀ written : List TypeExpr, (∃ types, p.resolveAll instantiate scope env written = .ok types) ↔
      ∀ part ∈ written, p.Fits depth ⟨scope, env.map (·.1), level, part⟩
  | [] => iff_of_true ⟨_, rfl⟩ (by simp)
  | first :: rest => by
    rw [resolveAll, exists_bind_eq_ok, List.forall_mem_cons, ← resolveWith_fits hinst first,
      ← resolveAll_fits hinst rest]
    simp only [exists_return_eq_ok, exists_and_right]

end

end Resolving

/-! ## Type parameters -/

section Binding

variable {default : Env → TypeExpr → Except CheckError CheckedType} {env env' : Env}
  {params : List TypeParam} {types : List CheckedType}

theorem names_bindParams (h : bindParams default params types env = .ok env') :
    env'.map (·.1) = env.map (·.1) ++ params.map (·.name) := by
  induction params generalizing types env with
  | nil =>
    cases h
    simp
  | cons param rest ih =>
    cases types with
    | cons type types =>
      rw [ih h]
      simp
    | nil =>
      rw [bindParams] at h
      split at h <;>
      · obtain ⟨type, -, h⟩ := bind_eq_ok.1 h
        rw [ih h]
        simp

/-- Type parameters are bound exactly if each default that is needed is resolved, with the names of the
type parameters before it. -/
theorem bindParams_isOk {good : List String → TypeExpr → Prop}
    (hdefault : ∀ env written, (∃ type, default env written = .ok type) ↔ good (env.map (·.1)) written) :
    (∃ env', bindParams default params types env = .ok env') ↔
      ∀ i written, types.length ≤ i → params[i]?.bind (·.default) = some written →
        good (env.map (·.1) ++ (params.take i).map (·.name)) written := by
  induction params generalizing types env with
  | nil => exact iff_of_true ⟨env, rfl⟩ (by simp)
  | cons param rest ih =>
    -- what is asked of the type parameters behind the first
    have hrest : ∀ (later : List CheckedType) (type : CheckedType), later.length = types.length - 1 →
        ((∃ env', bindParams default rest later (env ++ [(param.name, type)]) = .ok env') ↔
          ∀ i written, types.length ≤ i + 1 → rest[i]?.bind (·.default) = some written →
            good (env.map (·.1) ++ param.name :: (rest.take i).map (·.name)) written) := by
      intro later type hlength
      rw [ih]
      simp [hlength]
    rw [← Nat.and_forall_add_one]
    cases types with
    | cons type types =>
      rw [bindParams, hrest types type rfl]
      exact (and_iff_right fun _ hlength => by simp at hlength).symm
    | nil =>
      rw [bindParams]
      cases hparam : param.default with
      | none =>
        refine (hrest [] (.keyword .unknown) rfl).trans ?_
        simp [hparam]
      | some written =>
        rw [exists_bind_eq_ok]
        simp only [hrest [] _ rfl, exists_and_right, hdefault]
        simp [hparam]

end Binding

/-! ## Declarations -/

/-- What a declaration opens, one by one. -/
theorem forall_opens {kind : NodeKind} (hkind : p.arena.kind? declared = some kind)
    {good : Phrase → Prop} : (∀ next, p.Opens declared count level next → good next) ↔
      (∀ type, kind.aliased? = some type →
        good ⟨declared, kind.typeParams.map (·.name), level, type⟩) ∧
      ∀ i type, count ≤ i → kind.typeParams[i]?.bind (·.default) = some type →
        good ⟨declared, (kind.typeParams.take i).map (·.name), level, type⟩ := by
  constructor
  · intro h
    exact ⟨fun type haliased => h _ (.body hkind haliased),
      fun i type hcount hdefault => h _ (.default hcount hkind hdefault)⟩
  · rintro ⟨hbody, hdefaults⟩ next hopens
    cases hopens with
    | body hkind' haliased =>
      rw [hkind] at hkind'
      obtain rfl := Option.some.inj hkind'
      exact hbody _ haliased
    | default hcount hkind' hdefault =>
      rw [hkind] at hkind'
      obtain rfl := Option.some.inj hkind'
      exact hdefaults _ _ hcount hdefault

/-- **A declaration is expanded exactly if what it opens fits,** one level deeper. -/
theorem instantiate_fits (p : Program) (depth level : Nat) :
    p.ExpandsFitting depth level (p.instantiate depth) := by
  induction depth generalizing level with
  | zero =>
    intro declared name args _
    exact iff_of_false (fun ⟨type, h⟩ => by cases h) (fun ⟨hpos, _⟩ => Nat.lt_irrefl 0 hpos)
  | succ depth ih =>
    rintro declared name args ⟨kind, hkind, -⟩
    have hinner : ∀ (env : Env) written,
        (∃ type, p.resolveWith (p.instantiate depth) declared env written = .ok type) ↔
          p.Fits depth ⟨declared, env.map (·.1), level + 1, written⟩ :=
      fun env written => resolveWith_fits (ih (level + 1)) written
    have hbind := fun params => @bindParams_isOk _ [] params args
      (fun bound written => p.Fits depth ⟨declared, bound, level + 1, written⟩) hinner
    rw [forall_opens hkind, and_iff_right (Nat.succ_pos depth), Nat.add_sub_cancel]
    unfold Program.instantiate
    simp only [hkind]
    cases kind with
    | typeAlias name params type exported =>
      have hbody : ∀ env', bindParams (fun env type => p.resolveWith (p.instantiate depth) declared env type)
          params args [] = .ok env' →
            ((∃ found, p.resolveWith (p.instantiate depth) declared env' type = .ok found) ↔
              p.Fits depth ⟨declared, params.map (·.name), level + 1, type⟩) := by
        intro env' henv
        rw [hinner, names_bindParams henv]
        rfl
      rw [exists_bind_eq_ok, exists_congr fun env' => and_congr_right (hbody env'), exists_and_right,
        hbind params, and_comm]
      simp [NodeKind.typeParams, NodeKind.aliased?]
    | interface name params bases members exported =>
      rw [exists_return_eq_ok, hbind params]
      simp [NodeKind.typeParams, NodeKind.aliased?]
    | _ => exact iff_of_true ⟨_, rfl⟩ (by simp [NodeKind.typeParams, NodeKind.aliased?])

/-- A type expression is resolved exactly if it fits. -/
theorem resolveWith_isOk_iff {env : Env} :
    (∃ type, p.resolveWith (p.instantiate depth) scope env written = .ok type) ↔
      p.Fits depth ⟨scope, env.map (·.1), level, written⟩ :=
  resolveWith_fits (p.instantiate_fits depth level) written

theorem Fits.mono {depth' : Nat} (h : p.Fits depth phrase) (hle : depth ≤ depth') :
    p.Fits depth' phrase :=
  fun met declared args hmeets hnames =>
    (h met declared args hmeets hnames).trans_le (Nat.add_le_add_left hle _)

/-- How deep a phrase stands makes no difference to whether it fits. -/
theorem fits_level_iff {level' : Nat} :
    p.Fits depth ⟨scope, bound, level, written⟩ ↔ p.Fits depth ⟨scope, bound, level', written⟩ := by
  have hbound : (bound.map fun name => (name, CheckedType.function)).map (·.1) = bound := by
    simp [Function.comp_def]
  rw [← hbound, ← resolveWith_isOk_iff, ← resolveWith_isOk_iff]

/-! ## Declarations without a cycle -/

/-- From a declaration to those that are named where it is expanded, before these are expanded in turn,
the rank falls. -/
def RankFalls (p : Program) (rank : NodeId → Nat) : Prop :=
  ∀ declared count level opened met named args, p.Opens declared count level opened →
    p.Meets opened met → met.level = opened.level → p.Names met named args →
      rank named < rank declared

/-- Where ranks fall, what names declarations of rank below `depth` fits. -/
theorem fits_of_rankFalls {rank : NodeId → Nat} (hrank : p.RankFalls rank)
    (hstart : ∀ met named args, p.Meets phrase met → met.level = phrase.level →
      p.Names met named args → rank named < depth) : p.Fits depth phrase := by
  -- one level deeper the ranks are lower, by one at least
  have hbelow : ∀ met, p.Meets phrase met → ∀ within named args, p.Meets met within →
      within.level = met.level → p.Names within named args →
        met.level + rank named < phrase.level + depth := by
    intro met hmet
    induction hmet with
    | refl =>
      intro within named args hwithin hlevel hnames
      exact Nat.add_lt_add_left (hstart within named args hwithin hlevel hnames) _
    | tail _ hleads ih =>
      intro within named args hwithin hlevel hnames
      cases hleads with
      | part hpart => exact ih within named args (.head (.part hpart) hwithin) hlevel hnames
      | opens hnamed hopens =>
        have hlower := hrank _ _ _ _ within named args hopens hwithin hlevel hnames
        have hupper := ih _ _ _ .refl rfl hnamed
        have hnext := hopens.level_eq
        omega
  intro met named args hmet hnames
  have hlevel := hbelow met hmet met named args .refl rfl hnames
  omega

/-! ## Chains of aliases -/

/-- A chain of so many aliases without type parameters: each stands for the next one, and the last one
for a type that names no declaration. -/
inductive AliasChain (p : Program) : Nat → NodeId → Prop
  | last {id : NodeId} {kind : NodeKind} {type : TypeExpr} (hkind : p.arena.kind? id = some kind)
      (haliased : kind.aliased? = some type) (hparams : kind.typeParams = [])
      (hplain : p.Fits 0 ⟨id, [], 0, type⟩) : AliasChain p 1 id
  | link {id next : NodeId} {kind : NodeKind} {name : String} {n : Nat}
      (hkind : p.arena.kind? id = some kind) (haliased : kind.aliased? = some (.reference name []))
      (hparams : kind.typeParams = []) (hnext : p.symbol id name .type = some next)
      (h : AliasChain p n next) : AliasChain p (n + 1) id

/-- An alias without type parameters fits if its type does, one level deeper. -/
theorem fits_reference_alias {id : NodeId} {kind : NodeKind} {type : TypeExpr} {name : String}
    (hkind : p.arena.kind? id = some kind) (haliased : kind.aliased? = some type)
    (hparams : kind.typeParams = []) (hname : name ∉ bound)
    (hsymbol : p.symbol scope name .type = some id) :
    p.Fits depth ⟨scope, bound, level, .reference name []⟩ ↔
      0 < depth ∧ p.Fits (depth - 1) ⟨id, [], level + 1, type⟩ := by
  have hopens : (∀ next, p.Opens id ([] : List TypeExpr).length (level + 1) next →
      p.Fits (depth - 1) next) ↔ p.Fits (depth - 1) ⟨id, [], level + 1, type⟩ := by
    rw [forall_opens hkind]
    simp [haliased, hparams]
  rw [fits_reference, ← hopens]
  constructor
  · exact fun ⟨_, h⟩ => h (fun _ => hname) id hsymbol
  · refine fun h => ⟨by simp, fun _ declared hdeclared => ?_⟩
    rw [hsymbol] at hdeclared
    obtain rfl := Option.some.inj hdeclared
    exact h

theorem AliasChain.fits_iff {n : Nat} {id : NodeId} {name : String} (h : p.AliasChain n id)
    (hname : name ∉ bound) (hsymbol : p.symbol scope name .type = some id) :
    p.Fits depth ⟨scope, bound, level, .reference name []⟩ ↔ n ≤ depth := by
  induction h generalizing scope bound level depth name with
  | last hkind haliased hparams hplain =>
    rw [fits_reference_alias hkind haliased hparams hname hsymbol]
    exact and_iff_left ((fits_level_iff.1 hplain).mono (Nat.zero_le _))
  | link hkind haliased hparams hnext _ ih =>
    rw [fits_reference_alias hkind haliased hparams hname hsymbol, ih (by simp) hnext]
    omega

/-! ## Expansions that reach themselves -/

theorem Leads.lower (h : p.Leads phrase next) (levels : Nat) :
    p.Leads (phrase.lower levels) (next.lower levels) := by
  cases h with
  | part hpart => exact .part hpart
  | @opens _ declared args hnames hopens =>
    have hlevel : phrase.level + 1 + levels = (phrase.lower levels).level + 1 :=
      Nat.add_right_comm _ _ _
    refine @Leads.opens _ _ _ declared args hnames ?_
    rw [← hlevel]
    cases hopens with
    | body hkind haliased => exact .body hkind haliased
    | default hcount hkind hdefault => exact .default hcount hkind hdefault

theorem Meets.lower (h : p.Meets phrase met) (levels : Nat) :
    p.Meets (phrase.lower levels) (met.lower levels) := by
  induction h with
  | refl => exact .refl
  | tail _ hleads ih => exact ih.tail (hleads.lower levels)

theorem Leads.level_le (h : p.Leads phrase next) : phrase.level ≤ next.level := by
  cases h with
  | part => exact Nat.le_refl _
  | opens _ hopens =>
    rw [hopens.level_eq]
    exact Nat.le_succ _

theorem Meets.level_le (h : p.Meets phrase met) : phrase.level ≤ met.level := by
  induction h with
  | refl => exact Nat.le_refl _
  | tail _ hleads ih => exact ih.trans hleads.level_le

/-- What leads back to a phrase, deeper than it stands, is met as deep as one likes. -/
theorem Meets.again {levels : Nat} (h : p.Meets phrase met) (hback : p.Leads met (phrase.lower levels))
    (n : Nat) : p.Meets phrase (met.lower (n * levels)) := by
  induction n with
  | zero =>
    rw [Nat.zero_mul]
    exact h
  | succ n ih =>
    have hnext : (met.lower (n * levels)).lower levels = met.lower ((n + 1) * levels) := by
      rw [Phrase.lower, Phrase.lower, Phrase.lower, Nat.succ_mul, Nat.add_assoc]
    rw [← hnext]
    exact (h.tail hback).trans (ih.lower levels)

/-- Where a name opens a phrase within which it is met again and opens it again, nothing fits. -/
theorem not_fits_of_again {start opened again : Phrase} (hopened : p.Meets start opened)
    (hagain : p.Meets opened again) (hnames : p.Names again declared args)
    (hopens : p.Opens declared args.length (again.level + 1) { opened with level := again.level + 1 })
    (depth : Nat) : ¬ p.Fits depth start := by
  intro hfits
  obtain ⟨levels, hlevels⟩ := Nat.exists_eq_add_of_le hagain.level_le
  have hback : p.Leads again (opened.lower (levels + 1)) := by
    rw [Phrase.lower, ← Nat.add_assoc, ← hlevels]
    exact .opens hnames hopens
  have hdeep := hopened.trans (hagain.again hback (start.level + depth))
  have hnames' : p.Names (again.lower ((start.level + depth) * (levels + 1))) declared args := hnames
  have hlevel : again.level + (start.level + depth) * (levels + 1) < start.level + depth :=
    hfits _ declared args hdeep hnames'
  have hle : start.level + depth ≤ (start.level + depth) * (levels + 1) :=
    Nat.le_mul_of_pos_right _ (Nat.succ_pos levels)
  omega

end Program

end ApiShapes
