import ApiShapes.Proofs.Arena.WellFormed
import ApiShapes.Proofs.Program.Expansion
import ApiShapes.Source.Module

/-!
# The bound on aliases within aliases

* `Program.resolveWith_mono` : where a type expression is resolved, a larger bound makes no difference;
* `Program.typeAt_expansion` : the type at a node is resolved exactly if the bound allows for all that is
  met on the way, and what is expanded within its own expansion is an error;
* `Program.typeAt_meets_itself` : an alias that its own default leads back to may have a type.
-/

namespace ApiShapes.Program

variable {p : Program} {declared scope : NodeId} {depth : Nat} {written : TypeExpr}

/-! ## Larger bounds -/

section Mono

variable {instantiate instantiate' : Instantiate} {env env' : Env}

mutual

theorem resolveWith_imp (h : ∀ declared name args type, instantiate declared name args = .ok type →
    instantiate' declared name args = .ok type) : ∀ (written : TypeExpr) {type : CheckedType},
    p.resolveWith instantiate scope env written = .ok type →
      p.resolveWith instantiate' scope env written = .ok type
  | .keyword _, _, hok => hok
  | .literal _, _, hok => hok
  | .array element, _, hok => by
    obtain ⟨found, hfound, hok⟩ := bind_eq_ok.1 hok
    exact bind_eq_ok.2 ⟨found, resolveWith_imp h element hfound, hok⟩
  | .union members, _, hok => by
    obtain ⟨found, hfound, hok⟩ := bind_eq_ok.1 hok
    exact bind_eq_ok.2 ⟨found, resolveAll_imp h members hfound, hok⟩
  | .intersection members, _, hok => by
    obtain ⟨found, hfound, hok⟩ := bind_eq_ok.1 hok
    exact bind_eq_ok.2 ⟨found, resolveAll_imp h members hfound, hok⟩
  | .object _, _, hok => hok
  | .function, _, hok => hok
  | .unsupported _, _, hok => hok
  | .reference name args, _, hok => by
    unfold resolveWith at hok ⊢
    split at hok
    · exact hok
    · obtain ⟨types, htypes, hok⟩ := bind_eq_ok.1 hok
      refine bind_eq_ok.2 ⟨types, resolveAll_imp h args htypes, ?_⟩
      split at hok
      · exact h _ _ _ _ hok
      · exact hok

theorem resolveAll_imp (h : ∀ declared name args type, instantiate declared name args = .ok type →
    instantiate' declared name args = .ok type) : ∀ (written : List TypeExpr) {types : List CheckedType},
    p.resolveAll instantiate scope env written = .ok types →
      p.resolveAll instantiate' scope env written = .ok types
  | [], _, hok => hok
  | first :: rest, _, hok => by
    obtain ⟨type, htype, hok⟩ := bind_eq_ok.1 hok
    obtain ⟨types, htypes, hok⟩ := bind_eq_ok.1 hok
    exact bind_eq_ok.2 ⟨type, resolveWith_imp h first htype,
      bind_eq_ok.2 ⟨types, resolveAll_imp h rest htypes, hok⟩⟩

end

theorem bindParams_imp {default default' : Env → TypeExpr → Except CheckError CheckedType}
    (h : ∀ env written type, default env written = .ok type → default' env written = .ok type)
    {params : List TypeParam} {types : List CheckedType}
    (hok : bindParams default params types env = .ok env') :
    bindParams default' params types env = .ok env' := by
  induction params generalizing types env with
  | nil => exact hok
  | cons param rest ih =>
    cases types with
    | cons type types => exact ih hok
    | nil =>
      rw [bindParams] at hok ⊢
      split at hok
      · obtain ⟨type, htype, hok⟩ := bind_eq_ok.1 hok
        exact bind_eq_ok.2 ⟨type, h _ _ _ htype, ih hok⟩
      · exact ih hok

theorem instantiate_succ {name : String} {args : List CheckedType} {type : CheckedType}
    (h : p.instantiate depth declared name args = .ok type) :
    p.instantiate (depth + 1) declared name args = .ok type := by
  induction depth generalizing declared name args type with
  | zero => cases h
  | succ depth ih =>
    have hinner : ∀ env written type,
        p.resolveWith (p.instantiate depth) declared env written = .ok type →
          p.resolveWith (p.instantiate (depth + 1)) declared env written = .ok type :=
      fun env written _ => resolveWith_imp (fun _ _ _ _ => ih) written
    rw [Program.instantiate] at h ⊢
    split at h
    · exact h
    · obtain ⟨env, henv, h⟩ := bind_eq_ok.1 h
      exact bind_eq_ok.2 ⟨env, bindParams_imp hinner henv, hinner _ _ _ h⟩
    · obtain ⟨env, henv, h⟩ := bind_eq_ok.1 h
      exact bind_eq_ok.2 ⟨env, bindParams_imp hinner henv, h⟩
    · exact h
    · exact h
    · exact h

/-- Where a type expression is resolved, a larger bound makes no difference. -/
theorem resolveWith_mono {depth' : Nat} (hle : depth ≤ depth') {type : CheckedType}
    (h : p.resolveWith (p.instantiate depth) scope env written = .ok type) :
    p.resolveWith (p.instantiate depth') scope env written = .ok type := by
  induction hle with
  | refl => exact h
  | step _ ih => exact resolveWith_imp (fun _ _ _ _ => instantiate_succ) written ih

end Mono

/-! ## Types at nodes -/

/-- The type that is written at a node, where so many aliases and defaults may be expanded within one
another. -/
def typeAtWithin (p : Program) (depth : Nat) (id : NodeId) (env : Env) :
    Except CheckError CheckedType :=
  match p.arena.kind? id with
  | none => .error (.unknownNode id)
  | some (.interface ..) => .ok (.object id env)
  | some (.typeLiteral _) => .ok (.object id env)
  | some kind =>
    match kind.writtenType? with
    | some type => p.resolveWith (p.instantiate (depth + 1)) id env type
    | none => .error (.untyped id)

section

variable {id : NodeId} {env : Env} {kind : NodeKind}

theorem typeAt_eq : p.typeAt id env = p.typeAtWithin maxAliasDepth id env := rfl

theorem typeAtWithin_of_written (hkind : p.arena.kind? id = some kind)
    (hwritten : kind.writtenType? = some written) :
    p.typeAtWithin depth id env = p.resolveWith (p.instantiate (depth + 1)) id env written := by
  unfold typeAtWithin
  rw [hkind]
  cases kind with
  | interface => cases hwritten
  | typeLiteral => cases hwritten
  | _ => simp only [hwritten]

theorem typeAt_of_isObject (h : p.IsObject id) : p.typeAt id env = .ok (.object id env) := by
  unfold typeAt
  rcases h with ⟨_, hkind⟩ | ⟨_, _, _, _, _, hkind⟩
  · rw [hkind]
  · rw [hkind]

theorem typeAtWithin_mono {depth' : Nat} (hle : depth ≤ depth') {type : CheckedType}
    (h : p.typeAtWithin depth id env = .ok type) : p.typeAtWithin depth' id env = .ok type := by
  unfold typeAtWithin at h ⊢
  split at h
  · exact h
  · exact h
  · exact h
  · split at h
    · exact resolveWith_mono (Nat.succ_le_succ hle) h
    · exact h

/-- A phrase that is opened on the way, within which it is opened again, is an error. -/
theorem typeAt_again (hkind : p.arena.kind? id = some kind) (hwritten : kind.writtenType? = some written)
    {met again : Phrase} {args args' : List TypeExpr} {bound : List String} {type : TypeExpr}
    (hmet : p.Meets ⟨id, env.map (·.1), 0, written⟩ met) (hnames : p.Names met declared args)
    (hopens : ∀ level, p.Opens declared args.length level ⟨scope, bound, level, type⟩)
    (hagain : p.Meets ⟨scope, bound, 0, type⟩ again) (hnames' : p.Names again declared args')
    (hopens' : ∀ level, p.Opens declared args'.length level ⟨scope, bound, level, type⟩) :
    ∃ name, p.typeAt id env = .error (.tooDeep name) := by
  have hstart : p.Meets ⟨id, env.map (·.1), 0, written⟩ ⟨scope, bound, met.level + 1, type⟩ :=
    hmet.tail (.opens hnames (hopens _))
  have hlower : p.Meets ⟨scope, bound, met.level + 1, type⟩ (again.lower (met.level + 1)) := by
    have hlower := hagain.lower (met.level + 1)
    rwa [Phrase.lower, Nat.zero_add] at hlower
  have hfits := not_fits_of_again hstart hlower hnames' (hopens' _) (maxAliasDepth + 1)
  rw [← resolveWith_isOk_iff, ← typeAtWithin_of_written hkind hwritten, ← typeAt_eq] at hfits
  cases htype : p.typeAt id env with
  | ok found => exact absurd ⟨found, htype⟩ hfits
  | error e =>
    rw [typeAt_eq, typeAtWithin_of_written hkind hwritten] at htype
    obtain ⟨name, rfl⟩ := p.resolve_answers id env written e htype
    exact ⟨name, rfl⟩

end

/-- **The bound on aliases within aliases is exact, and it changes no type.** An object type has itself
as its type. Another type that is written at a node is resolved, or else aliases are too deep. It is
resolved exactly if every name for a declaration that is met on the way stands below at most
`maxAliasDepth` aliases and defaults that are being expanded. So declarations that do not lead back to
themselves are expanded up to this rank, and a chain of aliases may have one more link. An alias whose
type leads back to it is an error wherever it is named, and so is a default that leads to a name for its
own declaration without an argument in its place. Where there is a type, a larger bound gives the same
one. -/
theorem typeAt_expansion (p : Program) (id : NodeId) (env : Env) :
    (p.IsObject id → p.typeAt id env = .ok (.object id env)) ∧
    (∀ kind written, p.arena.kind? id = some kind → kind.writtenType? = some written →
      Answers (p.typeAt id env) ∧
      ((∃ type, p.typeAt id env = .ok type) ↔
        ∀ met declared args, p.Meets ⟨id, env.map (·.1), 0, written⟩ met →
          p.Names met declared args → met.level ≤ maxAliasDepth) ∧
      (∀ rank, p.RankFalls rank →
        (∀ met named args, p.Meets ⟨id, env.map (·.1), 0, written⟩ met → met.level = 0 →
          p.Names met named args → rank named ≤ maxAliasDepth) → ∃ type, p.typeAt id env = .ok type) ∧
      (∀ n first name, p.AliasChain n first → written = .reference name [] → name ∉ env.map (·.1) →
        p.symbol id name .type = some first →
          ((∃ type, p.typeAt id env = .ok type) ↔ n ≤ maxAliasDepth + 1)) ∧
      ∀ met declared args named, p.Meets ⟨id, env.map (·.1), 0, written⟩ met →
        p.Names met declared args → p.arena.kind? declared = some named →
        (∀ type again args', named.aliased? = some type →
          p.Meets ⟨declared, named.typeParams.map (·.name), 0, type⟩ again →
            p.Names again declared args' → ∃ name, p.typeAt id env = .error (.tooDeep name)) ∧
        ∀ i type again args', named.typeParams[i]?.bind (·.default) = some type → args.length ≤ i →
          p.Meets ⟨declared, (named.typeParams.take i).map (·.name), 0, type⟩ again →
            p.Names again declared args' → args'.length ≤ i →
              ∃ name, p.typeAt id env = .error (.tooDeep name)) ∧
    ∀ type depth, p.typeAt id env = .ok type → maxAliasDepth ≤ depth →
      p.typeAtWithin depth id env = .ok type := by
  refine ⟨typeAt_of_isObject, fun kind written hkind hwritten => ?_,
    fun type depth htype hle => typeAtWithin_mono hle htype⟩
  have hresolve : p.typeAt id env = p.resolve id env written := typeAtWithin_of_written hkind hwritten
  have hfits : (∃ type, p.typeAt id env = .ok type) ↔
      p.Fits (maxAliasDepth + 1) ⟨id, env.map (·.1), 0, written⟩ := by
    rw [hresolve]
    exact resolveWith_isOk_iff
  refine ⟨?_, ?_, fun rank hrank hstart => ?_, ?_, ?_⟩
  · rw [hresolve]
    exact p.resolve_answers id env written
  · rw [hfits]
    simp only [Fits, Nat.zero_add, Nat.lt_succ_iff]
  · rw [hfits]
    exact fits_of_rankFalls hrank fun met named args hmet hlevel hnames =>
      Nat.lt_succ_of_le (hstart met named args hmet hlevel hnames)
  · rintro n first name hchain rfl hname hsymbol
    rw [hfits]
    exact hchain.fits_iff hname hsymbol
  · intro met declared args named hmet hnames hnamed
    refine ⟨fun type again args' haliased hagain hnames' => ?_,
      fun i type again args' hdefault hcount hagain hnames' hcount' => ?_⟩
    · exact typeAt_again hkind hwritten hmet hnames (fun _ => .body hnamed haliased) hagain hnames'
        fun _ => .body hnamed haliased
    · exact typeAt_again hkind hwritten hmet hnames (fun _ => .default hcount hnamed hdefault) hagain
        hnames' fun _ => .default hcount' hnamed hdefault

/-- Aliases in a row, and one that leads back to itself. -/
def aliasModule : ParsedModule :=
  (.ofString "a.ts", Source.parseModule (.ofPath (.ofString "a.ts"))
    "type A = B;\ntype B = string;\ntype Loop = Loop[];")

def areAliases : Option NodeKind → Option NodeKind → Option NodeKind → Bool
  | some (.typeAlias "A" [] (.reference "B" []) false), some (.typeAlias "B" [] (.keyword .string) false),
    some (.typeAlias "Loop" [] (.array (.reference "Loop" [])) false) => true
  | _, _, _ => false

def aliasProgram : Program where
  arena := Arena.ofModules [aliasModule]
  files := [(aliasModule.1, ⟨0⟩)]
  roots := [aliasModule.1]
  resolver := {}

/-- The first of the aliases has a type, under any larger bound, too; the last one is an error. -/
theorem typeAt_expansion_loop :
    (∃ type, aliasProgram.typeAt ⟨1⟩ [] = .ok type ∧
      aliasProgram.typeAtWithin 1000 ⟨1⟩ [] = .ok type) ∧
    ∃ name, aliasProgram.typeAt ⟨3⟩ [] = .error (.tooDeep name) := by
  have hkinds : areAliases (aliasProgram.arena.kind? ⟨1⟩) (aliasProgram.arena.kind? ⟨2⟩)
      (aliasProgram.arena.kind? ⟨3⟩) = true := by
    decide +kernel
  obtain ⟨hB, hloop⟩ : aliasProgram.symbol ⟨1⟩ "B" .type = some ⟨2⟩ ∧
      aliasProgram.symbol ⟨3⟩ "Loop" .type = some ⟨3⟩ := by
    decide +kernel
  unfold areAliases at hkinds
  split at hkinds
  · next hkind hkind' hkind'' =>
    refine ⟨?_, ?_⟩
    · obtain ⟨-, hwritten, hlarger⟩ := typeAt_expansion aliasProgram ⟨1⟩ []
      obtain ⟨-, -, -, hchain, -⟩ := hwritten _ _ hkind rfl
      have hlast : aliasProgram.AliasChain 1 ⟨2⟩ :=
        .last hkind' rfl rfl (fits_of_leaf (by simp) rfl)
      obtain ⟨type, htype⟩ := (hchain 1 ⟨2⟩ "B" hlast rfl (by simp) hB).2 (by decide)
      exact ⟨type, htype, hlarger type 1000 htype (by decide)⟩
    · obtain ⟨-, hwritten, -⟩ := typeAt_expansion aliasProgram ⟨3⟩ []
      obtain ⟨-, -, -, -, hagain⟩ := hwritten _ _ hkind'' rfl
      have hmet : ∀ level, aliasProgram.Meets ⟨⟨3⟩, [], level, .array (.reference "Loop" [])⟩
          ⟨⟨3⟩, [], level, .reference "Loop" []⟩ :=
        fun level => .single (.part (List.mem_singleton.2 rfl))
      have hnames : ∀ level, aliasProgram.Names ⟨⟨3⟩, [], level, .reference "Loop" []⟩ ⟨3⟩ [] :=
        fun level => ⟨"Loop", rfl, by simp, hloop⟩
      exact (hagain _ ⟨3⟩ [] _ (hmet 0) (hnames 0) hkind'').1 _ _ [] rfl (hmet 0) (hnames 0)
  · cases hkinds

/-- An alias that the default of its own type parameter leads back to, with an argument. -/
def ownDefaultModule : ParsedModule :=
  (.ofString "a.ts", Source.parseModule (.ofPath (.ofString "a.ts"))
    "type A<T = A<string>> = T;\ntype Target = A;")

def areOwnDefault : Option NodeKind → Option NodeKind → Bool
  | some (.typeAlias "A" [⟨"T", some (.reference "A" [.keyword .string])⟩] (.reference "T" []) false),
    some (.typeAlias "Target" [] (.reference "A" []) false) => true
  | _, _ => false

def ownDefault : Program where
  arena := Arena.ofModules [ownDefaultModule]
  files := [(ownDefaultModule.1, ⟨0⟩)]
  roots := [ownDefaultModule.1]
  resolver := {}

/-- Not every alias that is met within its own expansion is an error. -/
theorem typeAt_meets_itself :
    ¬ ∀ id (env : Env) kind written met declared args named type opened again args',
      ownDefault.arena.kind? id = some kind → kind.writtenType? = some written →
      ownDefault.arena.kind? declared = some named → named.aliased? = some type →
      ownDefault.Meets ⟨id, env.map (·.1), 0, written⟩ met → ownDefault.Names met declared args →
      ownDefault.Opens declared args.length (met.level + 1) opened → ownDefault.Meets opened again →
      ownDefault.Names again declared args' →
        ∃ name, ownDefault.typeAt id env = .error (.tooDeep name) := by
  intro h
  have hkinds : areOwnDefault (ownDefault.arena.kind? ⟨1⟩) (ownDefault.arena.kind? ⟨2⟩) = true := by
    decide +kernel
  have htype : (ownDefault.typeAt ⟨2⟩ []).toOption.isSome = true := by
    decide +kernel
  obtain ⟨htarget, hown⟩ : ownDefault.symbol ⟨2⟩ "A" .type = some ⟨1⟩ ∧
      ownDefault.symbol ⟨1⟩ "A" .type = some ⟨1⟩ := by
    decide +kernel
  unfold areOwnDefault at hkinds
  split at hkinds
  · next hkind hkind' =>
    have hopens : ownDefault.Opens ⟨1⟩ 0 1 ⟨⟨1⟩, [], 1, .reference "A" [.keyword .string]⟩ :=
      @Opens.default ownDefault ⟨1⟩ 0 1 _ 0 _ (Nat.le_refl 0) hkind rfl
    obtain ⟨name, herror⟩ := h ⟨2⟩ [] _ _ ⟨⟨2⟩, [], 0, .reference "A" []⟩ ⟨1⟩ [] _ _ _ _
      [.keyword .string] hkind' rfl hkind rfl .refl ⟨"A", rfl, by simp, htarget⟩ hopens .refl
      ⟨"A", rfl, by simp, hown⟩
    rw [herror] at htype
    cases htype
  · cases hkinds

end ApiShapes.Program
