import ApiShapes.Module.Resolver
import ApiShapes.Proofs.Text.Pieces
import Mathlib.Data.Prod.Lex

/-!
# The candidates of a specifier, one after the other

* `IsFirst At p i a` : of all things that have a place, `a` is the first with the property `p`, at `i`;
  `Finds` says of a search that it gives this one;
* `Captures`, `Fills` : what a pattern's star stands for, and a target with that for its own star;
* `FileAt`, `CandidateAt` : the candidates of a specifier by their places;
* `resolve_firstMatch` : a specifier resolves to the first candidate that exists.

A place counts the pattern, the target of the pattern and the ending, and is compared in this order.
-/

namespace ApiShapes

/-! ## The first of its kind -/

section First

variable {ι κ α β : Type} {p q : α → Bool}

/-- Of all things that have a place, this one at its place is the first with the property. -/
structure IsFirst [LT ι] (At : ι → α → Prop) (p : α → Bool) (i : ι) (a : α) : Prop where
  here : At i a
  holds : p a = true
  before : ∀ j < i, ∀ b, At j b → p b = false

/-- A search gives the first thing with the property, or nothing has it. -/
inductive Finds [LT ι] (At : ι → α → Prop) (p : α → Bool) : Option α → Prop
  | found {i : ι} {a : α} (h : IsFirst At p i a) : Finds At p (some a)
  | nothing (h : ∀ i a, At i a → p a = false) : Finds At p none

section Order

variable [LinearOrder ι] {At : ι → α → Prop} {i j : ι} {a b : α} {found : Option α}

theorem IsFirst.place_le (h : IsFirst At p i a) (hj : At j b) (hb : p b = true) : i ≤ j := by
  by_contra hlt
  have hnot := h.before j (not_le.1 hlt) b hj
  rw [hb] at hnot
  cases hnot

theorem Finds.eq_some_iff (hone : ∀ i a b, At i a → At i b → a = b) (h : Finds At p found) :
    found = some a ↔ ∃ i, IsFirst At p i a := by
  cases h with
  | found h =>
    constructor
    · rintro ⟨⟩
      exact ⟨_, h⟩
    · rintro ⟨j, h'⟩
      have hle := h.place_le h'.here h'.holds
      have hge := h'.place_le h.here h.holds
      exact congrArg some (hone j _ a (le_antisymm hle hge ▸ h.here) h'.here)
  | nothing hnone =>
    constructor
    · rintro ⟨⟩
    · rintro ⟨i, h⟩
      have hnot := hnone i a h.here
      rw [h.holds] at hnot
      cases hnot

theorem Finds.eq_none_iff (h : Finds At p found) :
    found = none ↔ ∀ i a, At i a → p a = false := by
  cases h with
  | @found i a h =>
    constructor
    · rintro ⟨⟩
    · intro hnone
      have hnot := hnone i a h.here
      rw [h.holds] at hnot
      cases hnot
  | nothing h => exact ⟨fun _ => h, fun _ => rfl⟩

/-- What more things have is found no later. -/
theorem Finds.exists_place_le (h : Finds At q found) (hi : IsFirst At p i a)
    (hpq : ∀ a, p a = true → q a = true) :
    ∃ j ≤ i, ∃ b, IsFirst At q j b ∧ found = some b := by
  have ha := hpq a hi.holds
  cases h with
  | found h => exact ⟨_, h.place_le hi.here ha, _, h, rfl⟩
  | nothing hnone =>
    have hnot := hnone i a hi.here
    rw [ha] at hnot
    cases hnot

theorem Finds.congr {At' : ι → α → Prop} (hat : ∀ i a, At i a ↔ At' i a) (h : Finds At p found) :
    Finds At' p found := by
  rwa [show At' = At from funext fun i => funext fun a => propext (hat i a).symm]

end Order

/-- A search that goes on with a second one when the first finds nothing. The places of the first come
before those of the second. -/
theorem Finds.or {ν : Type} [LT ι] [LT κ] [LT ν] {At : ι → α → Prop} {At₁ : κ → α → Prop}
    {At₂ : ν → α → Prop} {found₁ found₂ : Option α} (e₁ : κ → ι) (e₂ : ν → ι)
    (h₁ : Finds At₁ p found₁) (h₂ : Finds At₂ p found₂)
    (hat : ∀ i a, At i a ↔ (∃ k, e₁ k = i ∧ At₁ k a) ∨ ∃ n, e₂ n = i ∧ At₂ n a)
    (hmono₁ : ∀ k k', e₁ k < e₁ k' → k < k') (hmono₂ : ∀ n n', e₂ n < e₂ n' → n < n')
    (hbetween : ∀ k n, ¬e₂ n < e₁ k) : Finds At p (found₁.or found₂) := by
  cases h₁ with
  | @found k a h =>
    refine .found (i := e₁ k) ⟨(hat _ a).2 (.inl ⟨k, rfl, h.here⟩), h.holds, fun j hj b hb => ?_⟩
    obtain ⟨k', rfl, hk'⟩ | ⟨n, rfl, -⟩ := (hat j b).1 hb
    · exact h.before k' (hmono₁ k' k hj) b hk'
    · exact absurd hj (hbetween k n)
  | nothing hnone =>
    cases h₂ with
    | @found n a h =>
      refine .found (i := e₂ n) ⟨(hat _ a).2 (.inr ⟨n, rfl, h.here⟩), h.holds, fun j hj b hb => ?_⟩
      obtain ⟨k, -, hk⟩ | ⟨n', rfl, hn'⟩ := (hat j b).1 hb
      · exact hnone k b hk
      · exact h.before n' (hmono₂ n' n hj) b hn'
    | nothing hnone' =>
      refine .nothing fun i a hi => ?_
      obtain ⟨k, -, ha⟩ | ⟨n, -, ha⟩ := (hat i a).1 hi
      · exact hnone k a ha
      · exact hnone' n a ha

/-- A search through the slots of a list, some of which are empty. -/
theorem finds_slots (slots : List (Option α)) :
    Finds (fun (i : ℕ) a => slots[i]? = some (some a)) p ((slots.filterMap id).find? p) := by
  induction slots with
  | nil => exact .nothing (by simp)
  | cons slot slots ih =>
    have hslot : Finds (fun (_ : Unit) a => slot = some a) p (slot.filter p) := by
      cases slot with
      | none => exact .nothing (by simp)
      | some a =>
        cases ha : p a with
        | true =>
          rw [Option.filter_some_pos ha]
          exact .found (i := ()) ⟨rfl, ha, by simp⟩
        | false =>
          rw [Option.filter_some_neg ha]
          exact .nothing (by simpa using ha)
    have hsplit : ((slot :: slots).filterMap id).find? p =
        (slot.filter p).or ((slots.filterMap id).find? p) := by
      cases slot with
      | none => rfl
      | some a =>
        rw [List.filterMap_cons_some (rfl : id (some a) = some a), List.find?_cons]
        cases ha : p a with
        | true => rw [Option.filter_some_pos ha, Option.some_or]
        | false => rw [Option.filter_some_neg ha, Option.none_or]
    rw [hsplit]
    refine hslot.or (fun _ => 0) (· + 1) ih (fun i a => ?_) (by simp) (by simp) (by simp)
    cases i <;> simp

/-- A search through lists, one after the other. -/
theorem finds_flatMap [LinearOrder κ] {f : β → List α} {AtIn : β → κ → α → Prop}
    (h : ∀ b, Finds (AtIn b) p ((f b).find? p)) (bs : List β) :
    Finds (fun (place : ℕ ×ₗ κ) a => ∃ b, bs[(ofLex place).1]? = some b ∧ AtIn b (ofLex place).2 a) p
      ((bs.flatMap f).find? p) := by
  induction bs with
  | nil => exact .nothing (by simp)
  | cons b bs ih =>
    rw [List.flatMap_cons, List.find?_append]
    refine Finds.or (fun k => toLex (0, k)) (fun place => toLex ((ofLex place).1 + 1, (ofLex place).2))
      (h b) ih ?_ ?_ ?_ ?_
    · intro place a
      obtain ⟨⟨i, k⟩, rfl⟩ := toLex.surjective place
      cases i with
      | zero => simp [toLex.injective.eq_iff]
      | succ i => simp [toLex.injective.eq_iff]
    · simp [Prod.Lex.toLex_lt_toLex]
    · intro place place'
      obtain ⟨⟨i, k⟩, rfl⟩ := toLex.surjective place
      obtain ⟨⟨j, l⟩, rfl⟩ := toLex.surjective place'
      simp [Prod.Lex.toLex_lt_toLex]
    · simp [Prod.Lex.toLex_lt_toLex]

end First

/-! ## Patterns and targets -/

open Text

/-- The specifier is that of a file seen from another one's directory. -/
def IsRelative (specifier : String) : Prop :=
  specifier = "." ∨ specifier = ".." ∨
    ∃ rest, specifier = "./" ++ rest ∨ specifier = "../" ++ rest

/-- The pattern matches the specifier, and its first star stands for `part`: the specifier is what stands
around the star, with this part in between. A pattern without a star matches itself alone. -/
inductive Captures : (pattern specifier part : String) → Prop
  | exactly {pattern : String} (hstar : '*' ∉ pattern.toList) : Captures pattern pattern ""
  | star {start finish part : String} (hstar : '*' ∉ start.toList) :
      Captures (start ++ "*" ++ finish) (start ++ part ++ finish) part

/-- The name that a target stands for, with this part for its first star. -/
inductive Fills : (target part name : String) → Prop
  | exactly {target part : String} (hstar : '*' ∉ target.toList) : Fills target part target
  | star {start finish part : String} (hstar : '*' ∉ start.toList) :
      Fills (start ++ "*" ++ finish) part (start ++ part ++ finish)

theorem isRelative_iff {specifier : String} : isRelative specifier = true ↔ IsRelative specifier := by
  have hstart : ∀ start : String, start.toList.isPrefixOf specifier.toList = true ↔
      ∃ rest, specifier = start ++ rest := by
    intro start
    rw [List.isPrefixOf_iff_prefix]
    constructor
    · rintro ⟨rest, hrest⟩
      exact ⟨String.ofList rest, by rw [← String.toList_inj]; simpa using hrest.symm⟩
    · rintro ⟨rest, rfl⟩
      simp
  simp only [isRelative, IsRelative, Bool.or_eq_true, beq_iff_eq, hstart, exists_or, or_assoc]

theorem cutFirst_star {start finish : String} (hstar : '*' ∉ start.toList) :
    cutFirst '*' (start ++ "*" ++ finish) = some (start, finish) :=
  cutFirst_append hstar (by simp)

theorem eq_of_cutFirst {s start finish : String} (h : cutFirst '*' s = some (start, finish)) :
    s = start ++ "*" ++ finish ∧ '*' ∉ start.toList := by
  obtain ⟨hs, hstar⟩ := cutFirst_eq_some.1 h
  exact ⟨by rw [← String.toList_inj]; simpa using hs, hstar⟩

theorem captured_eq_some {pattern specifier part : String} :
    captured pattern specifier = some part ↔ Captures pattern specifier part := by
  constructor
  · intro h
    unfold captured at h
    split at h
    · rename_i start finish hcut
      obtain ⟨rfl, hstar⟩ := eq_of_cutFirst hcut
      simp only [Option.map_eq_some_iff, Option.bind_eq_some_iff, dropStart_eq_some,
        dropFinish_eq_some] at h
      obtain ⟨inner, ⟨rest, hspecifier, rfl⟩, rfl⟩ := h
      have hwhole : specifier = start ++ String.ofList inner ++ finish := by
        rw [← String.toList_inj]
        simpa using hspecifier
      rw [hwhole]
      exact .star hstar
    · rename_i hcut
      obtain ⟨heq, hpart⟩ := Option.ite_none_right_eq_some.1 h
      cases hpart
      rw [beq_iff_eq.1 heq] at hcut ⊢
      exact .exactly (cutFirst_eq_none.1 hcut)
  · rintro (hstar | hstar)
    · rw [captured, cutFirst_eq_none.2 hstar]
      simp
    · rename_i start finish
      have hchars : (start ++ part ++ finish).toList = start.toList ++ (part.toList ++ finish.toList) := by
        simp
      rw [captured, cutFirst_star hstar]
      simp only [hchars, dropStart_append, Option.bind_some, dropFinish_eq_some.2 rfl, Option.map_some,
        String.ofList_toList]

theorem fillTarget_eq {target part name : String} :
    fillTarget target part = name ↔ Fills target part name := by
  constructor
  · rintro rfl
    unfold fillTarget
    split
    · rename_i start finish hcut
      obtain ⟨rfl, hstar⟩ := eq_of_cutFirst hcut
      exact .star hstar
    · rename_i hcut
      exact .exactly (cutFirst_eq_none.1 hcut)
  · rintro (hstar | hstar)
    · rw [fillTarget, cutFirst_eq_none.2 hstar]
    · rw [fillTarget, cutFirst_star hstar]

/-! ## Candidates by their places -/

namespace ModuleResolver

/-- The place of a candidate: the number of the pattern, that of the pattern's target, and that of the
ending. -/
abbrev Place := ℕ ×ₗ ℕ ×ₗ ℕ

def place (pattern target ending : ℕ) : Place := toLex (pattern, toLex (target, ending))

/-- The path that an ending comes behind: `.js` and `.jsx` give way to it. -/
def scriptStem (base : Path) : Path :=
  if base.extension = some "js" ∨ base.extension = some "jsx" then base.dropExtension else base

/-- The files that a path without certain ending may mean, by their places: the path itself, if it is that
of a source file; the path with an ending; an index file below it. -/
inductive FileAt (base : Path) : ℕ → Path → Prop
  | itself (hsource : base.extension = some "ts" ∨ base.extension = some "tsx") : FileAt base 0 base
  | ending {i : ℕ} {ending : String} (hending : [".ts", ".tsx", ".d.ts"][i]? = some ending) :
      FileAt base (i + 1) ((scriptStem base).append ending)
  | index {i : ℕ} {file : String} (hfile : ["index.ts", "index.tsx", "index.d.ts"][i]? = some file) :
      FileAt base (i + 4) (base.child file)

/-- The files that a specifier may mean, by their places. A relative one is seen from the importing file's
directory, whatever base and patterns there are. Any other one is put through each pattern that matches it
and each of the pattern's targets, in order, and at last is taken as it is; all this is seen from the base,
without which it means no file. -/
inductive CandidateAt (resolver : ModuleResolver) (importer : Path) (specifier : String) :
    Place → Path → Prop
  | relative {i : ℕ} {path : Path} (hspecifier : IsRelative specifier)
      (hfile : FileAt ((importer.parent.getD .empty).join (.ofString specifier)).normal i path) :
      CandidateAt resolver importer specifier (place 0 0 i) path
  | mapped {base path : Path} {pattern part target name : String} {targets : List String} {i j k : ℕ}
      (hspecifier : ¬IsRelative specifier) (hbase : resolver.base = some base)
      (hpattern : resolver.mappings[i]? = some (pattern, targets))
      (hpart : Captures pattern specifier part) (htarget : targets[j]? = some target)
      (hname : Fills target part name) (hfile : FileAt (base.join (.ofString name)).normal k path) :
      CandidateAt resolver importer specifier (place i j k) path
  | plain {base path : Path} {k : ℕ} (hspecifier : ¬IsRelative specifier)
      (hbase : resolver.base = some base)
      (hfile : FileAt (base.join (.ofString specifier)).normal k path) :
      CandidateAt resolver importer specifier (place resolver.mappings.length 0 k) path

variable {resolver : ModuleResolver} {importer base path : Path} {specifier : String}

/-- The slots for the files of a path without certain ending. -/
def fileSlots (base : Path) : List (Option Path) :=
  (if base.isTypeScript then some base else none) ::
    ([".ts", ".tsx", ".d.ts"].map fun ending => some ((scriptStem base).append ending)) ++
      ["index.ts", "index.tsx", "index.d.ts"].map fun file => some (base.child file)

theorem filesOf_eq (base : Path) : filesOf base = (fileSlots base).filterMap id := by
  have hstem : (if base.extension == some "js" || base.extension == some "jsx" then base.dropExtension
      else base) = scriptStem base := by
    simp [scriptStem]
  rw [filesOf, hstem, fileSlots]
  cases base.isTypeScript <;> rfl

theorem fileAt_iff {i : ℕ} : FileAt base i path ↔ (fileSlots base)[i]? = some (some path) := by
  constructor
  · rintro (hsource | @⟨i, ending, hending⟩ | @⟨i, file, hfile⟩)
    · simp [fileSlots, Path.isTypeScript, hsource]
    · rcases i with _ | _ | _ | i <;> cases hending <;> rfl
    · rcases i with _ | _ | _ | i <;> cases hfile <;> rfl
  · intro h
    rcases i with _ | _ | _ | _ | _ | _ | _ | i
    · obtain ⟨hsource, hpath⟩ : base.isTypeScript = true ∧ base = path := by
        simpa [fileSlots] using h
      rw [← hpath]
      exact .itself (by simpa [Path.isTypeScript] using hsource)
    · cases h
      exact .ending (i := 0) rfl
    · cases h
      exact .ending (i := 1) rfl
    · cases h
      exact .ending (i := 2) rfl
    · cases h
      exact .index (i := 0) rfl
    · cases h
      exact .index (i := 1) rfl
    · cases h
      exact .index (i := 2) rfl
    · cases h

/-- The names that a pattern gives a specifier. -/
def namesBy (specifier : String) (mapping : String × List String) : List String :=
  match captured mapping.1 specifier with
  | some part => mapping.2.map (fillTarget · part)
  | none => []

/-- The paths without certain ending that a specifier may mean, those of one pattern together. -/
def baseGroups (resolver : ModuleResolver) (importer : Path) (specifier : String) : List (List Path) :=
  if isRelative specifier then [[((importer.parent.getD .empty).join (.ofString specifier)).normal]]
  else match resolver.base with
    | none => []
    | some base =>
      (resolver.mappings.map (namesBy specifier) ++ [[specifier]]).map
        (·.map fun name => (base.join (.ofString name)).normal)

theorem candidates_eq (resolver : ModuleResolver) (importer : Path) (specifier : String) :
    resolver.candidates importer specifier =
      (baseGroups resolver importer specifier).flatMap (·.flatMap filesOf) := by
  unfold candidates baseGroups
  split
  · simp
  · cases resolver.base with
    | none => rfl
    | some base =>
      simp only [List.flatMap_assoc, List.flatMap_map, List.flatMap_append, List.flatMap_cons,
        List.flatMap_nil, List.append_nil]
      rfl

theorem place_inj {i i' j j' k k' : ℕ} :
    place i j k = place i' j' k' ↔ i = i' ∧ j = j' ∧ k = k' := by
  simp [place, toLex.injective.eq_iff]

theorem getElem?_namesBy {pattern : String} {targets : List String} {name : String} {j : ℕ} :
    (namesBy specifier (pattern, targets))[j]? = some name ↔
      ∃ part target, Captures pattern specifier part ∧ targets[j]? = some target ∧
        Fills target part name := by
  simp only [← captured_eq_some, ← fillTarget_eq, namesBy]
  cases captured pattern specifier with
  | none => simp
  | some part => simp

theorem candidateAt_relative (h : IsRelative specifier) {i j k : ℕ} :
    CandidateAt resolver importer specifier (place i j k) path ↔ i = 0 ∧ j = 0 ∧
      FileAt ((importer.parent.getD .empty).join (.ofString specifier)).normal k path := by
  constructor
  · intro hcandidate
    generalize hat : place i j k = spot at hcandidate
    cases hcandidate with
    | relative _ hfile =>
      obtain ⟨rfl, rfl, rfl⟩ := place_inj.1 hat
      exact ⟨rfl, rfl, hfile⟩
    | mapped hnot => exact absurd h hnot
    | plain hnot => exact absurd h hnot
  · rintro ⟨rfl, rfl, hfile⟩
    exact .relative h hfile

theorem candidateAt_base (h : ¬IsRelative specifier) {i j k : ℕ} :
    CandidateAt resolver importer specifier (place i j k) path ↔
      ∃ base ∈ resolver.base, ∃ name,
        ((∃ mapping, resolver.mappings[i]? = some mapping ∧
            (namesBy specifier mapping)[j]? = some name) ∨
          i = resolver.mappings.length ∧ j = 0 ∧ name = specifier) ∧
        FileAt (base.join (.ofString name)).normal k path := by
  constructor
  · intro hcandidate
    generalize hat : place i j k = spot at hcandidate
    cases hcandidate with
    | relative hrelative => exact absurd hrelative h
    | mapped _ hbase hpattern hpart htarget hname hfile =>
      obtain ⟨rfl, rfl, rfl⟩ := place_inj.1 hat
      exact ⟨_, hbase, _, .inl ⟨_, hpattern, getElem?_namesBy.2 ⟨_, _, hpart, htarget, hname⟩⟩, hfile⟩
    | plain _ hbase hfile =>
      obtain ⟨rfl, rfl, rfl⟩ := place_inj.1 hat
      exact ⟨_, hbase, _, .inr ⟨rfl, rfl, rfl⟩, hfile⟩
  · rintro ⟨base, hbase, name, ⟨⟨pattern, targets⟩, hpattern, hname⟩ | ⟨rfl, rfl, rfl⟩, hfile⟩
    · obtain ⟨part, target, hpart, htarget, hname⟩ := getElem?_namesBy.1 hname
      exact .mapped h hbase hpattern hpart htarget hname hfile
    · exact .plain h hbase hfile

theorem candidateAt_iff {i j k : ℕ} :
    CandidateAt resolver importer specifier (place i j k) path ↔
      ∃ group, (baseGroups resolver importer specifier)[i]? = some group ∧
        ∃ base, group[j]? = some base ∧ FileAt base k path := by
  by_cases hspecifier : IsRelative specifier
  · rw [candidateAt_relative hspecifier, baseGroups, if_pos (isRelative_iff.2 hspecifier)]
    simp [List.getElem?_singleton]
  · rw [candidateAt_base hspecifier, baseGroups, if_neg (mt isRelative_iff.1 hspecifier)]
    cases resolver.base with
    | none => simp
    | some base =>
      simp only [List.map_append, List.map_map]
      rcases lt_or_ge i resolver.mappings.length with hi | hi
      · rw [List.getElem?_append_left (by simpa using hi), List.getElem?_map,
          List.getElem?_eq_getElem hi]
        simp [hi.ne]
      · have hlast : i - resolver.mappings.length = 0 ↔ i = resolver.mappings.length := by omega
        rw [List.getElem?_append_right (by simpa using hi), List.getElem?_eq_none hi]
        simp [List.getElem?_singleton, hlast, and_assoc]

/-- A specifier resolves by a search through its candidates. -/
theorem finds_resolve (resolver : ModuleResolver) (importer : Path) (specifier : String)
    (exist : Path → Bool) :
    Finds (CandidateAt resolver importer specifier) exist
      (resolver.resolve importer specifier exist) := by
  have hfiles : ∀ base, Finds (FileAt base) exist ((filesOf base).find? exist) := fun base => by
    rw [filesOf_eq]
    exact (finds_slots (fileSlots base)).congr fun i path => fileAt_iff.symm
  rw [resolve, candidates_eq]
  refine (finds_flatMap (finds_flatMap hfiles) _).congr fun place path => ?_
  obtain ⟨⟨i, place⟩, rfl⟩ := toLex.surjective place
  obtain ⟨⟨j, k⟩, rfl⟩ := toLex.surjective place
  exact candidateAt_iff.symm

theorem candidateAt_unique {spot : Place} {path' : Path}
    (h : CandidateAt resolver importer specifier spot path)
    (h' : CandidateAt resolver importer specifier spot path') : path = path' := by
  obtain ⟨⟨i, spot⟩, rfl⟩ := toLex.surjective spot
  obtain ⟨⟨j, k⟩, rfl⟩ := toLex.surjective spot
  obtain ⟨group, hgroup, base, hbase, hfile⟩ := candidateAt_iff.1 h
  obtain ⟨group', hgroup', base', hbase', hfile'⟩ := candidateAt_iff.1 h'
  obtain rfl : group = group' := Option.some.inj (hgroup.symm.trans hgroup')
  obtain rfl : base = base' := Option.some.inj (hbase.symm.trans hbase')
  rw [fileAt_iff] at hfile hfile'
  simpa using hfile.symm.trans hfile'

/-- **A specifier resolves to the first candidate that exists**, in an order that does not depend on what
exists, and to none exactly if no candidate does. If more files exist, it still resolves, and to no later
candidate. Which patterns take part, and with what for their stars, is told by their texts. -/
theorem resolve_firstMatch (resolver : ModuleResolver) (importer : Path) (specifier : String) :
    (∀ spot path path', CandidateAt resolver importer specifier spot path →
      CandidateAt resolver importer specifier spot path' → path = path') ∧
    (∀ exist path, resolver.resolve importer specifier exist = some path ↔
      ∃ spot, IsFirst (CandidateAt resolver importer specifier) exist spot path) ∧
    (∀ exist, resolver.resolve importer specifier exist = none ↔
      ∀ spot path, CandidateAt resolver importer specifier spot path → exist path = false) ∧
    (∀ exist more : Path → Bool, (∀ path, exist path = true → more path = true) → ∀ spot path,
      IsFirst (CandidateAt resolver importer specifier) exist spot path →
        ∃ earlier ≤ spot, ∃ path', IsFirst (CandidateAt resolver importer specifier) more earlier path' ∧
          resolver.resolve importer specifier more = some path') ∧
    ∀ pattern part, captured pattern specifier = some part ↔ Captures pattern specifier part := by
  have hfinds := finds_resolve resolver importer specifier
  refine ⟨fun _ _ _ => candidateAt_unique, fun exist path => ?_, fun exist => ?_,
    fun exist more hmore spot path hfirst => ?_, fun pattern part => captured_eq_some⟩
  · exact (hfinds exist).eq_some_iff fun _ _ _ => candidateAt_unique
  · exact (hfinds exist).eq_none_iff
  · exact (hfinds more).exists_place_le hfirst hmore

/-- A resolver with two targets for one pattern. -/
def twoTargets : ModuleResolver where
  base := some (.ofString "/app")
  mappings := [("@/*", ["gen/*", "src/*"])]

/-- With a file more, a target that comes earlier is taken. -/
theorem resolve_firstMatch_twoTargets :
    let importer := Path.ofString "/app/pages/api/item.ts"
    let written := Path.ofString "/app/src/lib/item.ts"
    let generated := Path.ofString "/app/gen/lib/item.tsx"
    ∃ earlier later, earlier ≤ later ∧
      IsFirst (CandidateAt twoTargets importer "@/lib/item.js") (· == written) later written ∧
      IsFirst (CandidateAt twoTargets importer "@/lib/item.js") (fun path => path == written ||
        path == generated) earlier generated := by
  intro importer written generated
  obtain ⟨-, hsome, -, hmore, -⟩ := resolve_firstMatch twoTargets importer "@/lib/item.js"
  have hfew : twoTargets.resolve importer "@/lib/item.js" (· == written) = some written := by
    decide +kernel
  have hboth : twoTargets.resolve importer "@/lib/item.js" (fun path => path == written ||
      path == generated) = some generated := by
    decide +kernel
  obtain ⟨later, hlater⟩ := (hsome _ _).1 hfew
  obtain ⟨earlier, hle, path, hearlier, hpath⟩ :=
    hmore (· == written) (fun path => path == written || path == generated)
      (fun path h => by simp [h]) later written hlater
  rw [hboth] at hpath
  cases hpath
  exact ⟨earlier, later, hle, hlater, hearlier⟩

end ModuleResolver

end ApiShapes
