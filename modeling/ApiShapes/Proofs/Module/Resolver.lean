import ApiShapes.Module.Resolver
import ApiShapes.Proofs.Path.Normal
import Mathlib.Data.List.Find

/-!
# What a specifier resolves to

* `isNormal_of_mem_candidates` : all candidates are paths in normal form;
* `resolve_eq_some` : the result is a candidate that exists;
* `resolve_eq_of_imp` : fewer existing files give the same result, if the result is still there.
-/

namespace ApiShapes.ModuleResolver
open ApiShapes.Path

theorem isName_of_mem_indexFiles {s : String} (h : s ∈ indexFiles) : IsName s := by
  simp only [indexFiles, List.mem_cons, List.not_mem_nil, or_false] at h
  rcases h with rfl | rfl | rfl <;> exact isName_of_two_lt_length (by decide)

theorem two_lt_length_of_mem_endings {e : String} (h : e ∈ endings) : 2 < e.length := by
  simp only [endings, List.mem_cons, List.not_mem_nil, or_false] at h
  rcases h with rfl | rfl | rfl <;> decide

theorem isNormal_of_mem_filesOf {base path : Path} (hbase : base.IsNormal)
    (h : path ∈ filesOf base) : path.IsNormal := by
  unfold filesOf at h
  simp only [List.mem_append, List.mem_map] at h
  obtain (h | ⟨e, he, rfl⟩) | ⟨s, hs, rfl⟩ := h
  · split at h
    · rwa [List.mem_singleton.1 h]
    · simp at h
  · split
    · exact hbase.dropExtension_append (two_lt_length_of_mem_endings he)
    · exact hbase.append (two_lt_length_of_mem_endings he)
  · exact hbase.child (isName_of_mem_indexFiles hs)

variable {resolver : ModuleResolver} {importer : Path} {specifier : String}

/-- Every file that a specifier may mean is given by a path in normal form. -/
theorem isNormal_of_mem_candidates {path : Path}
    (h : path ∈ resolver.candidates importer specifier) : path.IsNormal := by
  unfold candidates at h
  split at h
  · exact isNormal_of_mem_filesOf (normal_isNormal _) h
  · split at h
    · simp at h
    · obtain ⟨target, -, h⟩ := List.mem_flatMap.1 h
      exact isNormal_of_mem_filesOf (normal_isNormal _) h

theorem resolve_eq_some {exist : Path → Bool} {path : Path}
    (h : resolver.resolve importer specifier exist = some path) :
    path ∈ resolver.candidates importer specifier ∧ exist path = true :=
  ⟨List.mem_of_find?_eq_some h, List.find?_some h⟩

theorem isNormal_of_resolve {exist : Path → Bool} {path : Path}
    (h : resolver.resolve importer specifier exist = some path) : path.IsNormal :=
  isNormal_of_mem_candidates (resolve_eq_some h).1

/-- Of the files only the candidates matter. -/
theorem resolve_congr {exist exist' : Path → Bool}
    (h : ∀ path ∈ resolver.candidates importer specifier, exist path = exist' path) :
    resolver.resolve importer specifier exist = resolver.resolve importer specifier exist' :=
  List.find?_congr h

theorem find?_eq_of_imp {α : Type} {p q : α → Bool} {l : List α} (hpq : ∀ a, p a = true → q a = true)
    (h : ∀ a, l.find? q = some a → p a = true) : l.find? p = l.find? q := by
  induction l with
  | nil => rfl
  | cons a rest ih =>
    cases hq : q a with
    | true => rw [List.find?_cons_of_pos hq, List.find?_cons_of_pos (h a (List.find?_cons_of_pos hq))]
    | false =>
      have hp : ¬ p a = true := fun hp => by simp [hpq a hp] at hq
      have hq : ¬ q a = true := by simp [hq]
      rw [List.find?_cons_of_neg hp, List.find?_cons_of_neg hq]
      exact ih fun b hb => h b (by rwa [List.find?_cons_of_neg hq])

/-- Of the existing files only some are known. As long as the file that a specifier means is known,
it stays the first one: an earlier candidate that is known would exist. -/
theorem resolve_eq_of_imp {known exist : Path → Bool}
    (hsub : ∀ path, known path = true → exist path = true)
    (h : ∀ path, resolver.resolve importer specifier exist = some path → known path = true) :
    resolver.resolve importer specifier known = resolver.resolve importer specifier exist :=
  find?_eq_of_imp hsub h

end ApiShapes.ModuleResolver
