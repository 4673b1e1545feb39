import Mathlib.Data.List.Forall2

/-!
# Related results of related arguments

* `ExceptRel R` : both are results, and related by `R`, or both are errors, whichever these are;
* `optionRel_bind`, `ExceptRel.bind` : steps that follow related ones;
* `optionRel_find?`, `optionRel_findSome?`, `any_eq`, `ExceptRel.foldlM` : searches and folds over lists
  that are related element by element.
-/

namespace ApiShapes

variable {α α' β β' ε : Type} {R : α → α' → Prop} {S : β → β' → Prop}

/-! ## Options -/

theorem optionRel_bind {x : Option α} {x' : Option α'} {f : α → Option β} {f' : α' → Option β'}
    (h : Option.Rel R x x') (hf : ∀ a a', R a a' → Option.Rel S (f a) (f' a')) :
    Option.Rel S (x.bind f) (x'.bind f') := by
  cases h with
  | none => exact .none
  | some h => exact hf _ _ h

theorem optionRel_map {x : Option α} {x' : Option α'} {f : α → β} {f' : α' → β'}
    (h : Option.Rel R x x') (hf : ∀ a a', R a a' → S (f a) (f' a')) :
    Option.Rel S (x.map f) (x'.map f') := by
  cases h with
  | none => exact .none
  | some h => exact .some (hf _ _ h)

theorem optionRel_getD {x : Option α} {x' : Option α'} {a : α} {a' : α'} (h : Option.Rel R x x')
    (ha : R a a') : R (x.getD a) (x'.getD a') := by
  cases h with
  | none => exact ha
  | some h => exact h

theorem optionRel_and {x : Option α} {x' : Option α'} {Q : α → Prop} (h : Option.Rel R x x')
    (hQ : ∀ a, x = some a → Q a) : Option.Rel (fun a a' => R a a' ∧ Q a) x x' := by
  cases h with
  | none => exact .none
  | some h => exact .some ⟨h, hQ _ rfl⟩

theorem optionRel_eq {x x' : Option α} (h : Option.Rel Eq x x') : x = x' := by
  cases h with
  | none => rfl
  | some h => rw [h]

/-! ## Results and errors -/

/-- Both are related results, or both are errors. -/
inductive ExceptRel (R : α → α' → Prop) : Except ε α → Except ε α' → Prop
  | ok {a : α} {a' : α'} (h : R a a') : ExceptRel R (.ok a) (.ok a')
  | error {e e' : ε} : ExceptRel R (.error e) (.error e')

theorem ExceptRel.bind {x : Except ε α} {x' : Except ε α'} {f : α → Except ε β}
    {f' : α' → Except ε β'} (h : ExceptRel R x x')
    (hf : ∀ a a', R a a' → ExceptRel S (f a) (f' a')) : ExceptRel S (x >>= f) (x' >>= f') := by
  cases h with
  | ok h => exact hf _ _ h
  | error => exact .error

theorem ExceptRel.toOption {x : Except ε α} {x' : Except ε α'} (h : ExceptRel R x x') :
    Option.Rel R x.toOption x'.toOption := by
  cases h with
  | ok h => exact .some h
  | error => exact .none

/-! ## Lists -/

theorem forall₂_and_mem {xs : List α} {xs' : List α'} (h : List.Forall₂ R xs xs') :
    List.Forall₂ (fun a a' => R a a' ∧ a ∈ xs ∧ a' ∈ xs') xs xs' := by
  refine List.forall₂_iff_zip.2 ⟨h.length_eq, fun hpair => ⟨List.forall₂_zip h hpair, ?_⟩⟩
  exact List.of_mem_zip hpair

theorem optionRel_find? {xs : List α} {xs' : List α'} {p : α → Bool} {p' : α' → Bool}
    (h : List.Forall₂ R xs xs') (hp : ∀ a a', R a a' → p a = p' a') :
    Option.Rel R (xs.find? p) (xs'.find? p') := by
  induction h with
  | nil => exact .none
  | @cons a a' rest rest' ha _ ih =>
    rw [List.find?_cons, List.find?_cons, hp a a' ha]
    split
    · exact .some ha
    · exact ih

theorem optionRel_findSome? {xs : List α} {xs' : List α'} {f : α → Option β} {f' : α' → Option β'}
    (h : List.Forall₂ R xs xs') (hf : ∀ a a', R a a' → Option.Rel S (f a) (f' a')) :
    Option.Rel S (xs.findSome? f) (xs'.findSome? f') := by
  induction h with
  | nil => exact .none
  | @cons a a' rest rest' ha _ ih =>
    rw [List.findSome?_cons, List.findSome?_cons]
    generalize hx : f a = x, hx' : f' a' = x'
    have hhead : Option.Rel S x x' := hx ▸ hx' ▸ hf a a' ha
    cases hhead with
    | none => exact ih
    | some h => exact .some h

theorem any_eq {xs : List α} {xs' : List α'} {p : α → Bool} {p' : α' → Bool}
    (h : List.Forall₂ R xs xs') (hp : ∀ a a', R a a' → p a = p' a') : xs.any p = xs'.any p' := by
  induction h with
  | nil => rfl
  | @cons a a' rest rest' ha _ ih => rw [List.any_cons, List.any_cons, hp a a' ha, ih]

theorem optionRel_getElem? {xs : List α} {xs' : List α'} (h : List.Forall₂ R xs xs') (i : Nat) :
    Option.Rel R xs[i]? xs'[i]? := by
  induction h generalizing i with
  | nil => exact .none
  | cons ha _ ih =>
    cases i with
    | zero => exact .some ha
    | succ i => exact ih i

inductive EntryRel (R : α → α' → Prop) : String × α → String × α' → Prop
  | intro (name : String) {a : α} {a' : α'} (h : R a a') : EntryRel R (name, a) (name, a')

theorem optionRel_lookup {xs : List (String × α)} {xs' : List (String × α')} (name : String)
    (h : List.Forall₂ (EntryRel R) xs xs') : Option.Rel R (xs.lookup name) (xs'.lookup name) := by
  induction h with
  | nil => exact .none
  | cons hentry _ ih =>
    obtain ⟨key, ha⟩ := hentry
    rw [List.lookup_cons, List.lookup_cons]
    cases name == key with
    | true => exact .some ha
    | false => exact ih

theorem ExceptRel.foldlM {xs : List α} {xs' : List α'} {f : β → α → Except ε β}
    {f' : β' → α' → Except ε β'} (h : List.Forall₂ R xs xs')
    (hf : ∀ b b' a a', S b b' → R a a' → ExceptRel S (f b a) (f' b' a')) {b : β} {b' : β'}
    (hb : S b b') : ExceptRel S (xs.foldlM f b) (xs'.foldlM f' b') := by
  induction h generalizing b b' with
  | nil => exact .ok hb
  | cons ha _ ih =>
    rw [List.foldlM_cons, List.foldlM_cons]
    exact (hf _ _ _ _ hb ha).bind fun _ _ hb => ih hb

end ApiShapes
