import ApiShapes.Program.Names

/-!
# What kinds of nodes names lead to

* `Program.IsMeant` : there is a node, and it is no export list entry of its own module;
* `Program.symbol_isMeant` : such entries are always followed, so that a name never ends at one.
-/

namespace ApiShapes

/-- A statement that declares a name is no export. -/
theorem NodeKind.declares_reExport {specifier : Option String} {localName exported name : String}
    {space : Space} : (reExport specifier localName exported).declares name space = false := by
  cases space <;> simp [declares, typeName?, valueName?]

namespace Program

variable {p : Program} {space : Space}

/-- There is a node, and it is anything but an export of what its own module declares. -/
def IsMeant (p : Program) (id : NodeId) : Prop :=
  ∃ kind, p.arena.kind? id = some kind ∧ ∀ localName exported, kind ≠ .reExport none localName exported

/-- A statement that is searched for by its kind is there. -/
theorem exists_kind?_of_find? {statements : List NodeId} {wanted : NodeKind → Bool} {id : NodeId}
    (h : statements.find? (fun id => ((p.arena.kind? id).map wanted).getD false) = some id) :
    ∃ kind, p.arena.kind? id = some kind ∧ wanted kind = true := by
  have hwanted := List.find?_some h
  cases hkind : p.arena.kind? id with
  | none => simp [hkind] at hwanted
  | some kind => exact ⟨kind, rfl, by simpa [hkind] using hwanted⟩

theorem localSymbol_isMeant {file id : NodeId} {name : String}
    (h : p.localSymbol file name space = some id) : p.IsMeant id := by
  obtain ⟨kind, hkind, hdeclares⟩ := exists_kind?_of_find? h
  refine ⟨kind, hkind, ?_⟩
  rintro localName exported rfl
  simp [NodeKind.declares_reExport] at hdeclares

theorem followBinding_isMeant {search : NodeId → String → Option NodeId} {binding : NodeId}
    (hsearch : ∀ file name id, search file name = some id → p.IsMeant id)
    (hbinding : p.IsMeant binding) : p.IsMeant (p.followBinding search binding) := by
  have hfound : ∀ found : Option NodeId, (∀ id, found = some id → p.IsMeant id) →
      p.IsMeant (found.getD binding) := by
    intro found h
    cases found with
    | none => exact hbinding
    | some id => exact h id rfl
  apply hfound _
  intro id hid
  split at hid
  · exact hsearch _ _ _ hid
  · exact hsearch _ _ _ hid
  · cases hid

theorem fileSymbol_isMeant {search : NodeId → String → Option NodeId}
    (hsearch : ∀ file name id, search file name = some id → p.IsMeant id) {file id : NodeId}
    {name : String} (h : p.fileSymbol search file name space = some id) : p.IsMeant id := by
  obtain ⟨declared, hdeclared, rfl⟩ := Option.map_eq_some_iff.1 h
  have hmeant := localSymbol_isMeant hdeclared
  split
  · exact followBinding_isMeant hsearch hmeant
  · exact hmeant

theorem exportStep_isMeant {search afterLocal : NodeId → String → Option NodeId}
    (hsearch : ∀ file name id, search file name = some id → p.IsMeant id)
    (hafter : ∀ file name id, afterLocal file name = some id → p.IsMeant id) {file id : NodeId}
    {name : String} (h : p.exportStep space search afterLocal file name = some id) :
    p.IsMeant id := by
  simp only [exportStep] at h
  split at h
  · next offer hoffer =>
    obtain ⟨found, hfound, -⟩ := exists_kind?_of_find? hoffer
    split at h
    · next specifier localName _ hkind =>
      split at h
      · exact hsearch _ _ _ h
      · obtain rfl := Option.some.inj h
        exact ⟨_, hkind, by simp⟩
    · exact fileSymbol_isMeant hafter h
    · next hother =>
      obtain rfl := Option.some.inj h
      refine ⟨found, hfound, ?_⟩
      rintro localName exported rfl
      exact hother localName exported hfound
  · split at h
    · cases h
    · obtain ⟨statement, -, hstatement⟩ := List.exists_of_findSome?_eq_some h
      split at hstatement
      · obtain ⟨target, -, htarget⟩ := Option.bind_eq_some_iff.1 hstatement
        exact hsearch _ _ _ htarget
      · cases hstatement

theorem findExport_isMeant (hops : Nat) {file id : NodeId} {name : String}
    (h : p.findExport space hops file name = some id) : p.IsMeant id := by
  induction hops using Nat.strongRecOn generalizing file id name with
  | ind hops ih =>
    match hops with
    | 0 => cases h
    | 1 => exact exportStep_isMeant (fun _ _ _ h => by cases h) (fun _ _ _ h => by cases h) h
    | hops + 2 =>
      exact exportStep_isMeant (fun _ _ _ h => ih (hops + 1) (by omega) h)
        (fun _ _ _ h => ih hops (by omega) h) h

/-- A name never leads to an export of what its own module declares. -/
theorem symbol_isMeant {scope id : NodeId} {name : String}
    (h : p.symbol scope name space = some id) : p.IsMeant id := by
  obtain ⟨file, -, h⟩ := Option.bind_eq_some_iff.1 h
  split at h
  · exact fileSymbol_isMeant (fun _ _ _ h => findExport_isMeant _ h) h
  · obtain ⟨binding, hbinding, h⟩ := Option.bind_eq_some_iff.1 h
    split at h
    · split at h
      · cases h
      · exact findExport_isMeant _ h
    · obtain rfl := Option.some.inj h
      have hspace := List.find?_some hbinding
      split at hspace
      · next localName hkind => exact ⟨_, hkind, by simp⟩
      · cases hspace

end Program

end ApiShapes
