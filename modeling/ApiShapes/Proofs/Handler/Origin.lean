import ApiShapes.Handler.Extract
import ApiShapes.Proofs.Program.Origin

/-!
# Which types are taken for requests and responses

* `Program.Imports module name type` : the type is the declaration of that name from that module;
* `Program.RequestFrom`, `Program.ResponseFrom` : the types that a request and a response may have;
* `extractHandlers_origin` : a handler's request and response have shapes only if the types of its
  parameters come from the modules that they should.
-/

namespace ApiShapes

namespace Program

/-- The type is the declaration of that name in the module of that specifier. -/
def Imports (p : Program) (module name : String) (type : CheckedType) : Prop :=
  ∃ origin args, type = .external origin name args ∧ p.NamesModule origin module

/-- The type may be a request's: the framework's request type, alone, within an intersection or as the
first argument of a name without declaration there, or one of the helper types, alone. -/
inductive RequestFrom (p : Program) (framework : Framework) : CheckedType → Prop
  | request {type : CheckedType} (h : p.Imports framework.module framework.request type) :
      RequestFrom p framework type
  | part {parts : List CheckedType} {part : CheckedType} (hpart : part ∈ parts)
      (h : p.Imports framework.module framework.request part) :
      RequestFrom p framework (.intersection parts)
  | wrapped {parts args : List CheckedType} {name : String} {arg : CheckedType}
      (hpart : .unresolved name (arg :: args) ∈ parts)
      (h : p.Imports framework.module framework.request arg) :
      RequestFrom p framework (.intersection parts)
  | helper {type : CheckedType} {helper : RequestHelper} (hhelper : helper ∈ requestHelpers)
      (h : p.Imports framework.helperModule helper.name type) : RequestFrom p framework type

/-- The type may be a response's: it is the framework's response type. -/
def ResponseFrom (p : Program) (framework : Framework) (type : CheckedType) : Prop :=
  p.Imports framework.module framework.response type

end Program

variable {p : Program} {read : Path → Option String} {framework : Framework}

theorem comesFrom_iff {origin : NodeId} {module : String} :
    comesFrom p.checker origin module = true ↔ p.importOrigin origin = some module := by
  simp [comesFrom, Program.checker]

/-- An external type that the checker traces to a module does come from there. -/
theorem Program.Assembled.imports (hp : p.Assembled read) {origin : NodeId} {name module : String}
    {args : List CheckedType} (h : p.Produces (.external origin name args))
    (hmodule : comesFrom p.checker origin module = true) :
    p.Imports module name (.external origin name args) := by
  obtain ⟨specifier, hnames, horigin⟩ := hp.exists_origin h
  rw [comesFrom_iff, horigin] at hmodule
  obtain rfl := Option.some.inj hmodule
  exact ⟨origin, args, rfl, hnames⟩

theorem imports_of_isRequest (hp : p.Assembled read) {type : CheckedType} (h : p.Produces type)
    (hrequest : isRequest p.checker framework type = true) :
    p.Imports framework.module framework.request type := by
  unfold isRequest at hrequest
  split at hrequest
  · rw [Bool.and_eq_true, beq_iff_eq] at hrequest
    obtain ⟨rfl, hmodule⟩ := hrequest
    exact hp.imports h hmodule
  · cases hrequest

theorem requestFrom_of_wrapsRequest (hp : p.Assembled read) {parts : List CheckedType}
    {part : CheckedType} (h : p.Produces (.intersection parts)) (hpart : part ∈ parts)
    (hwraps : wrapsRequest p.checker framework part = true) :
    p.RequestFrom framework (.intersection parts) := by
  have hpart' : p.Produces part := h.part hpart
  unfold wrapsRequest at hwraps
  split at hwraps
  · exact .wrapped hpart (imports_of_isRequest hp (hpart'.part List.mem_cons_self) hwraps)
  · exact .part hpart (imports_of_isRequest hp hpart' hwraps)

theorem requestFrom_of_helperOf (hp : p.Assembled read) {type : CheckedType} (h : p.Produces type)
    {helper : RequestHelper} {args : List CheckedType}
    (hhelper : helperOf p.checker framework type = some (helper, args)) :
    p.RequestFrom framework type := by
  unfold helperOf at hhelper
  split at hhelper
  · split at hhelper
    · next hmodule =>
      obtain ⟨found, hfind, heq⟩ := Option.map_eq_some_iff.1 hhelper
      obtain ⟨rfl, rfl⟩ := Prod.mk.inj heq
      have hname := List.find?_some hfind
      obtain rfl : found.name = _ := by simpa using hname
      exact .helper (List.mem_of_find?_eq_some hfind) (hp.imports h hmodule)
    · cases hhelper
  · cases hhelper

theorem requestFrom_of_ne_unknown (hp : p.Assembled read) {type : CheckedType} (h : p.Produces type)
    (hne : requestShapeOf p.checker framework type ≠ .unknown) : p.RequestFrom framework type := by
  unfold requestShapeOf at hne
  split at hne
  · next hrequest => exact .request (imports_of_isRequest hp h hrequest)
  · split at hne
    · next hhelper => exact requestFrom_of_helperOf hp h hhelper
    · split at hne
      · split at hne
        · next hany =>
          obtain ⟨part, hpart, hwraps⟩ := List.any_eq_true.1 hany
          exact requestFrom_of_wrapsRequest hp h hpart hwraps
        · exact absurd rfl hne
      · exact absurd rfl hne

theorem responseFrom_of_ne_unknown (hp : p.Assembled read) {type : CheckedType} (h : p.Produces type)
    (hne : responseShapeOf p.checker framework type ≠ .unknown) : p.ResponseFrom framework type := by
  unfold responseShapeOf at hne
  split at hne
  · split at hne
    · next hresponse =>
      rw [Bool.and_eq_true, beq_iff_eq] at hresponse
      obtain ⟨rfl, hmodule⟩ := hresponse
      exact hp.imports h hmodule
    · exact absurd rfl hne
  · exact absurd rfl hne

theorem produces_typeAt {id : NodeId} {type : CheckedType} (h : p.typeAt id [] = .ok type) :
    p.Produces type :=
  .typeAt (by simp [Env.types]) h

theorem exists_requestFrom (hp : p.Assembled read) {param : NodeId}
    (hne : requestShape p.checker framework param ≠ .unknown) :
    ∃ type, p.typeAt param [] = .ok type ∧ p.RequestFrom framework type := by
  unfold requestShape at hne
  split at hne
  · next type htype => exact ⟨type, htype, requestFrom_of_ne_unknown hp (produces_typeAt htype) hne⟩
  · exact absurd rfl hne

theorem exists_responseFrom (hp : p.Assembled read) {param : NodeId}
    (hne : responseShape p.checker framework param ≠ .unknown) :
    ∃ type, p.typeAt param [] = .ok type ∧ p.ResponseFrom framework type := by
  unfold responseShape at hne
  split at hne
  · next type htype => exact ⟨type, htype, responseFrom_of_ne_unknown hp (produces_typeAt htype) hne⟩
  · exact absurd rfl hne

/-- A handler belongs to an entry of the file's method table and has the shapes of its parameters. -/
theorem exists_entry {checker : Checker} {file : Path} {handler : Handler}
    (h : handler ∈ extractHandlers checker framework file) :
    ∃ scope table, methodTable checker file = some (scope, table) ∧ ∃ entry ∈ table,
      entry.key.bind Method.ofKey? = some handler.method ∧
        ∃ request response, handlerParams checker scope entry.value = some (request, response) ∧
          handler.request = requestShape checker framework request ∧
          handler.response = responseShape checker framework response := by
  unfold extractHandlers at h
  split at h
  · next scope table htable =>
    obtain ⟨entry, hentry, h⟩ := List.mem_filterMap.1 h
    obtain ⟨key, hkey, h⟩ := Option.bind_eq_some_iff.1 h
    obtain ⟨method, hmethod, h⟩ := Option.bind_eq_some_iff.1 h
    obtain ⟨⟨request, response⟩, hparams, h⟩ := Option.bind_eq_some_iff.1 h
    cases h
    exact ⟨scope, table, htable, entry, hentry, by rw [hkey]; exact hmethod, request, response,
      hparams, rfl, rfl⟩
  · cases h

/-- **Only types from the right modules count.** In any program, a handler's request has a shape only if
the type of its first parameter is the framework's request type, or holds it as `RequestFrom` says, or
is a helper type; its response has one only if the second parameter has the framework's response type.
And whatever external type the program produces, an import or a re-export names the module that the
checker traces it to. -/
theorem extractHandlers_origin (roots : List Path) (resolver : ModuleResolver) (available : List Path)
    (read : Path → Option String) (framework : Framework) (file : Path) :
    let p := Program.load roots resolver available read
    (∀ handler ∈ extractHandlers p.checker framework file,
      ∃ scope table, methodTable p.checker file = some (scope, table) ∧ ∃ entry ∈ table,
        entry.key.bind Method.ofKey? = some handler.method ∧
          ∃ request response, handlerParams p.checker scope entry.value = some (request, response) ∧
            (handler.request ≠ .unknown →
              ∃ type, p.checker.typeAt request [] = .ok type ∧ p.RequestFrom framework type) ∧
            (handler.response ≠ .unknown →
              ∃ type, p.checker.typeAt response [] = .ok type ∧ p.ResponseFrom framework type)) ∧
      ∀ origin name args, p.Produces (.external origin name args) →
        ∃ specifier, p.NamesModule origin specifier ∧ p.checker.importOrigin origin = some specifier := by
  intro p
  have hp : p.Assembled read := (loads_load roots resolver available read).inv.assembled
  refine ⟨fun handler hhandler => ?_, fun origin name args h => hp.exists_origin h⟩
  obtain ⟨scope, table, htable, entry, hentry, hmethod, request, response, hparams, hrequest,
    hresponse⟩ := exists_entry hhandler
  refine ⟨scope, table, htable, entry, hentry, hmethod, request, response, hparams, fun hne => ?_,
    fun hne => ?_⟩
  · exact exists_requestFrom hp (hrequest ▸ hne)
  · exact exists_responseFrom hp (hresponse ▸ hne)

end ApiShapes
