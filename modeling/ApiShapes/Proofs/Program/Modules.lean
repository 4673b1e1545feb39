import ApiShapes.Proofs.Program.Loading

/-!
# The modules that specifiers mean

While a program is loaded, a specifier is resolved among the files that exist; later only among those
that are loaded.

* `Loads.moduleNamed?_eq` : in a loaded program a specifier of a loaded file means the module of the
  file that it resolved to.
-/

namespace ApiShapes
open Loading

namespace Loads

variable {exist : Path → Bool} {read : Path → Option String} {roots : List Path}
  {resolver : ModuleResolver} {p : Program} {path : Path} {file : NodeId} {specifier : String}

theorem mem_specifiers_iff (h : Loads exist read roots resolver p)
    (hfile : p.filePath? file = some path) :
    specifier ∈ p.specifiers file ↔ specifier ∈ Source.specifiers path (read path) := by
  obtain ⟨b, rfl⟩ := h.inv.assembled.block path file (h.inv.assembled.mem_files_iff.2 hfile)
  rw [b.specifiers_file, List.mem_eraseDups]

/-- What a specifier of a loaded file resolved to is loaded, and nothing that is loaded comes
before it. -/
theorem resolve_isLoaded_eq (h : Loads exist read roots resolver p)
    (hroots : ∀ root ∈ roots, exist root = true) (hfile : p.filePath? file = some path)
    (hspecifier : specifier ∈ Source.specifiers path (read path)) :
    resolver.resolve path specifier p.isLoaded = resolver.resolve path specifier exist := by
  have hpath : p.isLoaded path = true :=
    Program.isLoaded_iff.2 ⟨file, h.inv.assembled.mem_files_iff.2 hfile⟩
  apply ModuleResolver.resolve_eq_of_imp (fun q hq => h.exist_of_isLoaded hroots hq)
  intro target hresolve
  exact h.isLeast.1.leads_mem path hpath target ⟨specifier, hspecifier, hresolve⟩

theorem moduleNamed?_eq (h : Loads exist read roots resolver p)
    (hroots : ∀ root ∈ roots, exist root = true) (hfile : p.filePath? file = some path)
    (hspecifier : specifier ∈ Source.specifiers path (read path)) :
    p.moduleNamed? file specifier =
      (resolver.resolve path specifier exist).bind fun target => p.files.lookup target := by
  have hresolver : p.resolver = resolver := h.inv.resolver_eq
  simp [Program.moduleNamed?, hfile, hresolver, h.resolve_isLoaded_eq hroots hfile hspecifier]

/-- **Loading and looking up agree on modules.** A specifier that occurs in a loaded file means the
module of the very file that it resolved to among the existing ones, and means nothing if it did not
resolve. -/
theorem moduleNamed?_agrees (h : Loads exist read roots resolver p)
    (hroots : ∀ root ∈ roots, exist root = true) (hfile : p.files.lookup path = some file)
    (hspecifier : specifier ∈ p.specifiers file) :
    (∀ target, resolver.resolve path specifier exist = some target →
      ∃ node, p.moduleNamed? file specifier = some node ∧ p.files.lookup target = some node ∧
        p.filePath? node = some target) ∧
      (p.moduleNamed? file specifier = none ↔ resolver.resolve path specifier exist = none) := by
  have hassembled := h.inv.assembled
  have hpath : p.filePath? file = some path := hassembled.lookup_eq_some_iff.1 hfile
  rw [h.mem_specifiers_iff hpath] at hspecifier
  have hfound : ∀ target, resolver.resolve path specifier exist = some target →
      ∃ node, p.moduleNamed? file specifier = some node ∧ p.files.lookup target = some node ∧
        p.filePath? node = some target := by
    intro target hresolve
    have hloaded : p.isLoaded target = true :=
      h.isLeast.1.leads_mem path (Option.isSome_iff_exists.2 ⟨file, hfile⟩) target
        ⟨specifier, hspecifier, hresolve⟩
    obtain ⟨node, hnode⟩ := Option.isSome_iff_exists.1 hloaded
    refine ⟨node, ?_, hnode, hassembled.lookup_eq_some_iff.1 hnode⟩
    rw [h.moduleNamed?_eq hroots hpath hspecifier, hresolve]
    exact hnode
  refine ⟨hfound, fun hnone => ?_, fun hresolve => ?_⟩
  · cases hresolve : resolver.resolve path specifier exist with
    | none => rfl
    | some target =>
      obtain ⟨node, hnode, -⟩ := hfound target hresolve
      rw [hnone] at hnode
      cases hnode
  · rw [h.moduleNamed?_eq hroots hpath hspecifier, hresolve]
    rfl

/-- Two files that export each other. -/
theorem moduleNamed?_agrees_cycle :
    let first := Path.ofString "a.ts"
    let second := Path.ofString "b.ts"
    let read : Path → Option String := fun path =>
      some (if path = first then "export * from './b'" else "export * from './a'")
    let p := Program.load [first] {} [first, second] read
    ∃ file node, p.files.lookup first = some file ∧ p.moduleNamed? file "./b" = some node ∧
      p.filePath? node = some second := by
  intro first second read p
  have h : Loads [first, second].contains read [first] {} p := loads_load [first] {} _ read
  have hloaded : p.isLoaded first = true := h.isLeast.1.roots_mem first (by simp)
  obtain ⟨file, hfile⟩ := Option.isSome_iff_exists.1 hloaded
  have hspecifier : "./b" ∈ p.specifiers file := by
    rw [h.mem_specifiers_iff (h.inv.assembled.lookup_eq_some_iff.1 hfile)]
    decide +kernel
  obtain ⟨node, hnode, -, hpath⟩ := (moduleNamed?_agrees h (by simp) hfile hspecifier).1 second
    (by decide +kernel)
  exact ⟨file, node, hfile, hnode, hpath⟩

end Loads

end ApiShapes
