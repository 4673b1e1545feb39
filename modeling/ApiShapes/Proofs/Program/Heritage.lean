import ApiShapes.Program.Load
import ApiShapes.Program.Types
import ApiShapes.Proofs.Arena.Members
import ApiShapes.Proofs.Results
import Mathlib.Algebra.Order.BigOperators.Group.List
import Mathlib.Algebra.Ring.GeomSum
import Mathlib.Data.List.Induction

/-!
# Members of object types and their bases

* `Program.visits` : the object types whose members are listed for one, itself first, then its bases
  with theirs, in preorder;
* `Program.firstWins` : the members that these declare, without named ones that an earlier visit has;
* `Program.members_firstWins` : listing members gives exactly these.
-/

namespace ApiShapes.Program

section

variable (p : Program)

/-- The object types that `visit` finds for a base, if that resolves to an object type. -/
def visitBase (visit : Instance → Except CheckError (List Instance)) (object : Instance)
    (base : TypeExpr) : Except CheckError (List Instance) := do
  match ← p.resolve object.node object.env base with
  | .object node env => visit { node, env }
  | _ => return []

/-- The object types that are visited for the members of one, so many levels deep: itself, then for
each base that resolves to an object type those that are visited for the base, from left to right. -/
def visits : Nat → Instance → Except CheckError (List Instance)
  | 0, object => do
    let _ ← p.listed object
    return [object]
  | depth + 1, object => do
    let (_, bases) ← p.listed object
    return object :: (← bases.mapM (p.visitBase (visits depth) object)).flatten

/-- The members that an object type declares itself, in order, with what its type parameters stand
for. -/
def ownMembers (object : Instance) : List Member :=
  match p.listed object with
  | .ok (members, _) => members.map fun id => { name := p.memberName id, node := id, env := object.env }
  | .error _ => []

def names (object : Instance) (name : String) : Bool :=
  (p.ownMembers object).any (·.name == name)

/-- The members that an object type declares itself, without those whose names are taken by an earlier
one. A member without a name is never taken, and the empty text is no name. -/
def unshadowed (earlier : List Instance) (object : Instance) : List Member :=
  (p.ownMembers object).filter fun member =>
    member.name.isEmpty || !earlier.any (p.names · member.name)

/-- The members of object types, one after the other; the first one to declare a name has it. -/
def firstWins (visits : List Instance) : List Member :=
  visits.zipIdx.flatMap fun (object, i) => p.unshadowed (visits.take i) object

end

variable {p : Program} {object : Instance} {name : String}

/-! ## The first one wins -/

theorem firstWins_nil : p.firstWins [] = [] := rfl

/-- Another object type adds what no earlier one has. -/
theorem firstWins_concat (earlier : List Instance) (object : Instance) :
    p.firstWins (earlier ++ [object]) = p.firstWins earlier ++ p.unshadowed earlier object := by
  have hearlier : ∀ visit ∈ earlier.zipIdx,
      p.unshadowed ((earlier ++ [object]).take visit.2) visit.1 =
        p.unshadowed (earlier.take visit.2) visit.1 := by
    rintro ⟨visit, i⟩ hvisit
    have hle : i ≤ earlier.length := (List.snd_lt_of_mem_zipIdx hvisit).le
    rw [List.take_append_of_le_length hle]
  rw [firstWins, firstWins, List.zipIdx_append, List.flatMap_append, List.flatMap_congr hearlier]
  simp

/-- The names of the members so far are those that the visits so far declare. -/
theorem any_firstWins (hname : name ≠ "") (visits : List Instance) :
    (p.firstWins visits).any (·.name == name) = visits.any (p.names · name) := by
  induction visits using List.reverseRecOn with
  | nil => rfl
  | append_singleton visits visit ih =>
    rw [firstWins_concat, List.any_append, List.any_append, ih, List.any_cons, List.any_nil,
      Bool.or_false]
    cases htaken : visits.any (p.names · name) with
    | true => rfl
    | false =>
      rw [Bool.false_or, Bool.false_or, unshadowed, List.any_filter, names]
      refine List.any_congr rfl fun member => ?_
      by_cases hmember : member.name = name
      · subst hmember
        simp [htaken]
      · simp [hmember]

/-! ## Listing follows the visits -/

theorem ownMembers_eq {members : List NodeId} {bases : List TypeExpr}
    (h : p.listed object = .ok (members, bases)) : p.ownMembers object =
      members.map fun id => { name := p.memberName id, node := id, env := object.env } := by
  rw [ownMembers, h]

/-- A step of the listing adds what the visited object type declares and no earlier one has. -/
theorem append_freshMembers {members : List NodeId} {bases : List TypeExpr}
    (h : p.listed object = .ok (members, bases)) (earlier : List Instance) :
    p.firstWins earlier ++ p.freshMembers (p.firstWins earlier) object.env members =
      p.firstWins (earlier ++ [object]) := by
  rw [firstWins_concat, freshMembers, unshadowed, ownMembers_eq h]
  congr 1
  refine List.filter_congr fun member _ => ?_
  cases hname : member.name.isEmpty with
  | true => rfl
  | false => rw [any_firstWins (String.isEmpty_eq_false_iff.1 hname)]

/-- Steps that each add the members of visits add those of all these visits. -/
theorem foldlM_firstWins {step : List Member → TypeExpr → Except CheckError (List Member)}
    {visit : TypeExpr → Except CheckError (List Instance)} {bases : List TypeExpr}
    (h : ∀ base earlier, step (p.firstWins earlier) base =
      (fun visits => p.firstWins (earlier ++ visits)) <$> visit base) (earlier : List Instance) :
    bases.foldlM step (p.firstWins earlier) =
      (fun below => p.firstWins (earlier ++ below.flatten)) <$> bases.mapM visit := by
  induction bases generalizing earlier with
  | nil => simp
  | cons base bases ih =>
    rw [List.foldlM_cons, List.mapM_cons, h]
    cases visit base with
    | error e => rfl
    | ok visits =>
      show bases.foldlM step (p.firstWins (earlier ++ visits)) = _
      rw [ih]
      cases bases.mapM visit with
      | error e => rfl
      | ok below => exact congrArg (fun visits => Except.ok (p.firstWins visits)) (by simp)

/-- Listing adds to the members of earlier visits those of the visits of an object type. -/
theorem membersWithin_eq (depth : Nat) (object : Instance) (earlier : List Instance) :
    p.membersWithin depth object (p.firstWins earlier) =
      (fun visits => p.firstWins (earlier ++ visits)) <$> p.visits depth object := by
  induction depth generalizing object earlier with
  | zero =>
    rw [membersWithin, visits]
    cases hlisted : p.listed object with
    | error e => rfl
    | ok found => exact congrArg Except.ok (append_freshMembers hlisted earlier)
  | succ depth ih =>
    rw [membersWithin, visits]
    cases hlisted : p.listed object with
    | error e => rfl
    | ok found =>
      obtain ⟨members, bases⟩ := found
      show bases.foldlM _ (p.firstWins earlier ++ p.freshMembers _ object.env members) = _
      rw [append_freshMembers hlisted]
      refine (@foldlM_firstWins p _ (p.visitBase (p.visits depth) object) bases ?_ _).trans ?_
      · intro base earlier
        rw [visitBase]
        cases p.resolve object.node object.env base with
        | error e => rfl
        | ok type =>
          cases type with
          | object node env => exact ih ⟨node, env⟩ earlier
          | _ => exact congrArg (fun visits => Except.ok (p.firstWins visits)) (by simp)
      · show _ = (fun visits => p.firstWins (earlier ++ visits)) <$> do
          return object :: (← bases.mapM (p.visitBase (p.visits depth) object)).flatten
        cases bases.mapM (p.visitBase (p.visits depth) object) with
        | error e => rfl
        | ok below => exact congrArg (fun visits => Except.ok (p.firstWins visits)) (by simp)

/-- The members of an object type are those of its visits. -/
theorem members_eq (object : Instance) :
    p.members object = p.firstWins <$> p.visits maxHeritageDepth object := by
  rw [members, ← firstWins_nil, membersWithin_eq]
  rfl

/-! ## What the listing is made of -/

theorem exists_visits_eq_cons {depth : Nat} {visits : List Instance}
    (h : p.visits depth object = .ok visits) : ∃ below, visits = object :: below := by
  cases depth with
  | zero =>
    obtain ⟨found, -, h⟩ := bind_eq_ok.1 h
    cases h
    exact ⟨[], rfl⟩
  | succ depth =>
    obtain ⟨found, -, h⟩ := bind_eq_ok.1 h
    obtain ⟨below, -, h⟩ := bind_eq_ok.1 h
    cases h
    exact ⟨below.flatten, rfl⟩

theorem firstWins_prefix (earlier later : List Instance) :
    p.firstWins earlier <+: p.firstWins (earlier ++ later) := by
  induction later using List.reverseRecOn with
  | nil => rw [List.append_nil]
  | append_singleton later visit ih =>
    rw [← List.append_assoc, firstWins_concat]
    exact ih.trans (List.prefix_append _ _)

theorem firstWins_singleton (object : Instance) : p.firstWins [object] = p.ownMembers object := by
  simp [firstWins, unshadowed]

theorem filter_unshadowed (hname : name ≠ "") (earlier : List Instance) (object : Instance) :
    (p.unshadowed earlier object).filter (·.name == name) =
      if earlier.any (p.names · name) then []
      else (p.ownMembers object).filter (·.name == name) := by
  rw [unshadowed, List.filter_filter]
  split
  · next htaken =>
    refine List.filter_eq_nil_iff.2 fun member _ hmember => ?_
    rw [Bool.and_eq_true, beq_iff_eq] at hmember
    obtain ⟨rfl, hmember⟩ := hmember
    simp [htaken, hname] at hmember
  · next hfree =>
    refine List.filter_congr fun member _ => ?_
    by_cases hmember : member.name = name
    · subst hmember
      simp [hfree]
    · simp [hmember]

/-- The members of a name are those of one visit, the first one that declares the name. -/
theorem filter_firstWins (hname : name ≠ "") (visits : List Instance) :
    (p.firstWins visits).filter (·.name == name) =
      match visits.find? (p.names · name) with
      | some visit => (p.ownMembers visit).filter (·.name == name)
      | none => [] := by
  induction visits using List.reverseRecOn with
  | nil => rfl
  | append_singleton visits visit ih =>
    rw [firstWins_concat, List.filter_append, ih, filter_unshadowed hname, List.find?_append]
    cases hfirst : visits.find? (p.names · name) with
    | some first =>
      have hnames := List.find?_some hfirst
      have htaken : visits.any (p.names · name) = true :=
        List.any_eq_true.2 ⟨first, List.mem_of_find?_eq_some hfirst, hnames⟩
      simp [htaken]
    | none =>
      have hfree : visits.any (p.names · name) = false := by
        simpa using hfirst
      by_cases hvisit : p.names visit name = true
      · simp [hfree, hvisit]
      · have hnone : (p.ownMembers visit).filter (·.name == name) = [] := by
          simpa [names] using hvisit
        simp [hfree, hvisit, hnone]

theorem filter_isEmpty_firstWins (visits : List Instance) :
    (p.firstWins visits).filter (·.name.isEmpty) =
      visits.flatMap fun visit => (p.ownMembers visit).filter (·.name.isEmpty) := by
  induction visits using List.reverseRecOn with
  | nil => rfl
  | append_singleton visits visit ih =>
    have hvisit : (p.unshadowed visits visit).filter (·.name.isEmpty) =
        (p.ownMembers visit).filter (·.name.isEmpty) := by
      rw [unshadowed, List.filter_filter]
      refine List.filter_congr fun member _ => ?_
      cases member.name.isEmpty <;> simp
    rw [firstWins_concat, List.filter_append, ih, hvisit, List.flatMap_append]
    simp

/-- Each member is one that a visited object type declares. -/
theorem exists_visit_of_mem {visits : List Instance} {member : Member}
    (h : member ∈ p.firstWins visits) : ∃ visit ∈ visits, member ∈ p.ownMembers visit := by
  obtain ⟨⟨visit, i⟩, hvisit, hmember⟩ := List.mem_flatMap.1 h
  exact ⟨visit, List.fst_mem_of_mem_zipIdx hvisit, (List.mem_filter.1 hmember).1⟩

theorem listed_eq_of_node {visit : Instance} (h : visit.node = object.node) :
    p.listed visit = p.listed object := by
  rw [listed, listed, h]

/-- A declaration that is visited again adds nothing but members without names. -/
theorem name_eq_of_mem_unshadowed {earlier : List Instance} {visit : Instance} (hvisit : visit ∈ earlier)
    (hnode : visit.node = object.node) {member : Member} (h : member ∈ p.unshadowed earlier object) :
    member.name = "" := by
  obtain ⟨hmember, hkept⟩ := List.mem_filter.1 h
  by_contra hname
  have hnames : p.names visit member.name = true := by
    rw [ownMembers, ← listed_eq_of_node hnode] at hmember
    rw [names, ownMembers]
    cases hlisted : p.listed visit with
    | error e => simp [hlisted] at hmember
    | ok found =>
      rw [hlisted] at hmember
      obtain ⟨id, hid, rfl⟩ := List.mem_map.1 hmember
      exact List.any_eq_true.2 ⟨_, List.mem_map.2 ⟨id, hid, rfl⟩, beq_self_eq_true _⟩
  have htaken : earlier.any (p.names · member.name) = true := List.any_eq_true.2 ⟨visit, hvisit, hnames⟩
  simp [htaken, hname] at hkept

/-- So many bases for each object type allow so many visits, also where bases lead back. -/
theorem length_visits_le {width : Nat} (hwidth : ∀ object members bases,
      p.listed object = .ok (members, bases) → bases.length ≤ width) {depth : Nat}
    {visits : List Instance} (h : p.visits depth object = .ok visits) :
    visits.length ≤ ∑ level ∈ Finset.range (depth + 1), width ^ level := by
  induction depth generalizing object visits with
  | zero =>
    obtain ⟨found, -, h⟩ := bind_eq_ok.1 h
    cases h
    simp
  | succ depth ih =>
    obtain ⟨⟨members, bases⟩, hlisted, h⟩ := bind_eq_ok.1 h
    obtain ⟨below, hbelow, h⟩ := bind_eq_ok.1 h
    cases h
    have hbase : ∀ base found, p.visitBase (p.visits depth) object base = .ok found →
        found.length ≤ ∑ level ∈ Finset.range (depth + 1), width ^ level := by
      intro base found hfound
      obtain ⟨type, -, hfound⟩ := bind_eq_ok.1 hfound
      split at hfound
      · exact ih hfound
      · cases hfound
        exact Nat.zero_le _
    calc (object :: below.flatten).length
        ≤ bases.length * (∑ level ∈ Finset.range (depth + 1), width ^ level) + 1 :=
          Nat.succ_le_succ (length_flatten_le_of_mapM hbase hbelow)
      _ ≤ width * (∑ level ∈ Finset.range (depth + 1), width ^ level) + 1 :=
          Nat.succ_le_succ (Nat.mul_le_mul_right _ (hwidth object members bases hlisted))
      _ = ∑ level ∈ Finset.range (depth + 1 + 1), width ^ level := (geom_sum_succ).symm

/-! ## No member twice -/

theorem name_of_mem_ownMembers {member : Member} (h : member ∈ p.ownMembers object) :
    member.name = p.memberName member.node ∧ member.env = object.env := by
  unfold ownMembers at h
  split at h
  · obtain ⟨id, -, rfl⟩ := List.mem_map.1 h
    exact ⟨rfl, rfl⟩
  · cases h

theorem nodup_ownMembers (h : p.arena.Orderly) (object : Instance) :
    ((p.ownMembers object).map (·.node)).Nodup := by
  have hascending : ∀ ids, NodeId.Ascending ids → ids.Nodup :=
    fun ids hids => hids.imp fun hlt heq => Nat.ne_of_lt hlt (congrArg NodeId.index heq)
  unfold ownMembers
  split
  · next members bases hlisted =>
    rw [List.map_map, Function.comp_def, List.map_id']
    unfold listed at hlisted
    split at hlisted
    · cases hlisted
    · next hkind =>
      cases hlisted
      exact hascending _ (h _ _ hkind)
    · next hkind =>
      cases hlisted
      exact hascending _ (h _ _ hkind)
    · cases hlisted
  · exact .nil

/-- Where object types list each member once, no member with a name is listed twice. -/
theorem nodup_firstWins (h : p.arena.Orderly) (visits : List Instance) :
    (((p.firstWins visits).filter (!·.name.isEmpty)).map (·.node)).Nodup := by
  induction visits using List.reverseRecOn with
  | nil => exact .nil
  | append_singleton visits visit ih =>
    rw [firstWins_concat, List.filter_append, List.map_append]
    refine List.nodup_append.2 ⟨ih, ?_, ?_⟩
    · have hsublist : ((p.unshadowed visits visit).filter (!·.name.isEmpty)).Sublist
          (p.ownMembers visit) := List.filter_sublist.trans List.filter_sublist
      exact (nodup_ownMembers h visit).sublist (hsublist.map _)
    · rintro _ hold _ hnew rfl
      obtain ⟨old, hlisted, hnode⟩ := List.mem_map.1 hold
      obtain ⟨new, hnamed, rfl⟩ := List.mem_map.1 hnew
      obtain ⟨hfresh, hname⟩ := List.mem_filter.1 hnamed
      obtain ⟨hnew, hkept⟩ := List.mem_filter.1 hfresh
      obtain ⟨earlier, hearlier, hold⟩ := exists_visit_of_mem (List.mem_filter.1 hlisted).1
      have hsame : old.name = new.name := by
        rw [(name_of_mem_ownMembers hold).1, (name_of_mem_ownMembers hnew).1, hnode]
      have htaken : visits.any (p.names · new.name) = true :=
        List.any_eq_true.2 ⟨earlier, hearlier, List.any_eq_true.2 ⟨old, hold, by simp [hsame]⟩⟩
      simp_all

/-! ## All together -/

/-- **Members are listed in preorder, and the first one to declare a name has it.** The members of an
object type are those that its visits declare, itself first, without the named ones that an earlier visit
has; the listing fails where a visit does. So its own members come first, all members of a name come
from one visit, a declaration that is visited again adds no named member, members without a name are all
kept, and each member carries what the type parameters of its visit stand for. In a program made of
modules no named member is listed twice. However bases lead back to one another, the number of visits
stays below a bound. -/
theorem members_firstWins (p : Program) (object : Instance) :
    p.members object = p.firstWins <$> p.visits maxHeritageDepth object ∧
    ∀ found, p.visits maxHeritageDepth object = .ok found →
      p.ownMembers object <+: p.firstWins found ∧
      (∀ name, name ≠ "" → (p.firstWins found).filter (·.name == name) =
        match found.find? (p.names · name) with
        | some visit => (p.ownMembers visit).filter (·.name == name)
        | none => []) ∧
      (∀ earlier visit later, found = earlier ++ visit :: later →
        (∃ before ∈ earlier, before.node = visit.node) →
          ∀ member ∈ p.unshadowed earlier visit, member.name = "") ∧
      (p.firstWins found).filter (·.name.isEmpty) =
        found.flatMap (fun visit => (p.ownMembers visit).filter (·.name.isEmpty)) ∧
      (∀ member ∈ p.firstWins found, ∃ visit ∈ found,
        member ∈ p.ownMembers visit ∧ member.env = visit.env) ∧
      ((∃ modules, p.arena = Arena.ofModules modules) →
        (((p.firstWins found).filter (!·.name.isEmpty)).map (·.node)).Nodup) ∧
      ∀ width, (∀ object members bases, p.listed object = .ok (members, bases) →
          bases.length ≤ width) →
        found.length ≤ ∑ level ∈ Finset.range (maxHeritageDepth + 1), width ^ level := by
  refine ⟨members_eq object, fun found hfound => ⟨?_, fun name hname => filter_firstWins hname found,
    ?_, filter_isEmpty_firstWins found, ?_, ?_, fun width hwidth => length_visits_le hwidth hfound⟩⟩
  · obtain ⟨below, rfl⟩ := exists_visits_eq_cons hfound
    rw [← firstWins_singleton]
    exact firstWins_prefix [object] below
  · rintro earlier visit later - ⟨before, hbefore, hnode⟩ member hmember
    exact name_eq_of_mem_unshadowed hbefore hnode hmember
  · intro member hmember
    obtain ⟨visit, hvisit, hmember⟩ := exists_visit_of_mem hmember
    exact ⟨visit, hvisit, hmember, (name_of_mem_ownMembers hmember).2⟩
  · rintro ⟨modules, hmodules⟩
    exact nodup_firstWins (hmodules ▸ Arena.orderly_ofModules modules) found

/-- A module of two interfaces that extend each other, with a member of the same name and one without a
name. -/
def mutualModule : ParsedModule :=
  (.ofString "a.ts", Source.parseModule (.ofPath (.ofString "a.ts")) (
    "interface A<T> extends B \x7b t: T; n: string \x7d\n" ++
      "interface B extends A<1> \x7b n: 1; n(): 1; (): 1 \x7d"))

def mutualBases : Program where
  arena := Arena.ofModules [mutualModule]
  files := [(mutualModule.1, ⟨0⟩)]
  roots := [mutualModule.1]
  resolver := {}

/-- The second one with itself as the base of its base, seventeen visits altogether. -/
theorem members_firstWins_mutual : ∃ found,
    mutualBases.visits maxHeritageDepth ⟨⟨4⟩, []⟩ = .ok found ∧ found.length = 17 ∧
      mutualBases.members ⟨⟨4⟩, []⟩ = .ok (mutualBases.firstWins found) ∧
      (((mutualBases.firstWins found).filter (!·.name.isEmpty)).map (·.name)) = ["n", "n", "t"] ∧
      (((mutualBases.firstWins found).filter (!·.name.isEmpty)).map (·.node)).Nodup := by
  obtain ⟨hmembers, hfound⟩ := members_firstWins mutualBases ⟨⟨4⟩, []⟩
  have hlength : (mutualBases.visits maxHeritageDepth ⟨⟨4⟩, []⟩).toOption.map List.length = some 17 := by
    decide +kernel
  have hnames : (mutualBases.members ⟨⟨4⟩, []⟩).toOption.map (fun members =>
      (members.filter (!·.name.isEmpty)).map (·.name)) = some ["n", "n", "t"] := by
    decide +kernel
  cases hvisits : mutualBases.visits maxHeritageDepth ⟨⟨4⟩, []⟩ with
  | error e =>
    rw [hvisits] at hlength
    cases hlength
  | ok found =>
    rw [hvisits] at hmembers hlength
    rw [hmembers] at hnames
    obtain ⟨-, -, -, -, -, hnodup, -⟩ := hfound found hvisits
    exact ⟨found, rfl, Option.some.inj hlength, hmembers, Option.some.inj hnames,
      hnodup ⟨[mutualModule], by simp only [mutualBases]⟩⟩

end ApiShapes.Program
