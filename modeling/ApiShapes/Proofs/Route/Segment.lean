import ApiShapes.Proofs.Text.Pieces
import ApiShapes.Route.Segment

/-!
# What bracketed segments declare

* `between_eq_some`, `wordBetween_eq_some` : brackets and what stands between them make up the segment;
* `RouteParam.brackets`, `RouteParam.ofSegment?_eq_some` : a segment gives a parameter exactly if it is the
  parameter's name, made of word characters, in the brackets that the parameter's flags call for;
* `Bracketed`, `Declares` : the query field of each form of brackets, and the fields of a path's segments in
  order; `declares_iff` says that these are the fields of the route's parameters.
-/

namespace ApiShapes

open Text

theorem between_eq_some {start finish cs inner : List Char} :
    between start finish cs = some inner ↔ cs = start ++ (inner ++ finish) := by
  rw [between, Option.bind_eq_some_iff]
  simp only [dropStart_eq_some, dropFinish_eq_some]
  constructor
  · rintro ⟨rest, rfl, rfl⟩
    rfl
  · rintro rfl
    exact ⟨_, rfl, rfl⟩

theorem between_append (start finish cs : List Char) :
    between start finish (start ++ (cs ++ finish)) = some cs :=
  between_eq_some.2 rfl

/-- The text can name a parameter: it is a nonempty run of word characters. -/
def IsParamName (name : String) : Prop :=
  name ≠ "" ∧ ∀ c ∈ name.toList, isWordChar c = true

theorem wordBetween_eq_some {start finish : List Char} {segment name : String} :
    wordBetween start finish segment = some name ↔
      IsParamName name ∧ segment.toList = start ++ (name.toList ++ finish) := by
  rw [← between_eq_some, wordBetween, IsParamName]
  cases hinner : between start finish segment.toList with
  | none => simp
  | some inner =>
    cases inner with
    | nil =>
      simp only [reduceCtorEq, Option.some.injEq, false_iff, not_and]
      rintro ⟨hne, -⟩ hnil
      exact hne (String.toList_eq_nil_iff.1 hnil.symm)
    | cons c rest =>
      dsimp only
      rw [Option.some_inj]
      constructor
      · intro h
        split at h
        · rename_i hall
          cases h
          rw [String.toList_ofList]
          exact ⟨⟨by simp [← String.toList_eq_nil_iff], List.all_eq_true.1 hall⟩, rfl⟩
        · cases h
      · rintro ⟨⟨-, hall⟩, hname⟩
        rw [hname, if_pos (List.all_eq_true.2 hall), String.ofList_toList]

theorem IsParamName.exists_cons {name : String} (h : IsParamName name) :
    ∃ c cs, name.toList = c :: cs ∧ isWordChar c = true := by
  obtain ⟨c, cs, hname⟩ := List.exists_cons_of_ne_nil fun hnil => h.1 (String.toList_eq_nil_iff.1 hnil)
  exact ⟨c, cs, hname, h.2 c (by rw [hname]; exact List.mem_cons_self)⟩

namespace RouteParam

def brackets (param : RouteParam) : String :=
  if param.isOptional then "[[..." ++ param.name ++ "]]"
  else if param.isArray then "[..." ++ param.name ++ "]"
  else "[" ++ param.name ++ "]"

/-- Some segment stands for the parameter: a parameter that may be absent takes the rest of the path. -/
structure IsSound (param : RouteParam) : Prop where
  name : IsParamName param.name
  array : param.isOptional = true → param.isArray = true

variable {segment name : String} {param : RouteParam}

theorem ofSegment?_one (hname : IsParamName name) :
    ofSegment? ("[" ++ name ++ "]") = some ⟨name, false, false⟩ := by
  have hone : wordBetween ['['] [']'] ("[" ++ name ++ "]") = some name := by
    rw [wordBetween_eq_some]
    exact ⟨hname, by simp⟩
  rw [ofSegment?, hone]
  rfl

/-- Between `[` and `]` stands no name, where another sign follows the bracket. -/
theorem wordBetween_one_eq_none (c : Char) (cs : List Char) (hc : isWordChar c = false)
    (hsegment : segment.toList = '[' :: c :: cs) : wordBetween ['['] [']'] segment = none := by
  rw [Option.eq_none_iff_forall_ne_some]
  intro name h
  obtain ⟨hname, htext⟩ := wordBetween_eq_some.1 h
  obtain ⟨d, ds, hcons, hd⟩ := hname.exists_cons
  rw [hsegment, hcons] at htext
  cases htext
  rw [hc] at hd
  cases hd

theorem ofSegment?_rest (hname : IsParamName name) :
    ofSegment? ("[..." ++ name ++ "]") = some ⟨name, true, false⟩ := by
  have hone : wordBetween ['['] [']'] ("[..." ++ name ++ "]") = none :=
    wordBetween_one_eq_none '.' ('.' :: '.' :: (name.toList ++ [']'])) (by decide) (by simp)
  have hrest : wordBetween ['[', '.', '.', '.'] [']'] ("[..." ++ name ++ "]") = some name := by
    rw [wordBetween_eq_some]
    exact ⟨hname, by simp⟩
  rw [ofSegment?, hone, hrest]
  rfl

theorem ofSegment?_optionalRest (hname : IsParamName name) :
    ofSegment? ("[[..." ++ name ++ "]]") = some ⟨name, true, true⟩ := by
  have hone : wordBetween ['['] [']'] ("[[..." ++ name ++ "]]") = none :=
    wordBetween_one_eq_none '[' ('.' :: '.' :: '.' :: (name.toList ++ [']', ']'])) (by decide)
      (by simp)
  have hrest : wordBetween ['[', '.', '.', '.'] [']'] ("[[..." ++ name ++ "]]") = none := by
    rw [Option.eq_none_iff_forall_ne_some]
    intro other h
    obtain ⟨-, htext⟩ := wordBetween_eq_some.1 h
    simp at htext
  have hoptional : wordBetween ['[', '[', '.', '.', '.'] [']', ']'] ("[[..." ++ name ++ "]]") =
      some name := by
    rw [wordBetween_eq_some]
    exact ⟨hname, by simp⟩
  rw [ofSegment?, hone, hrest, hoptional]
  rfl

theorem eq_of_toList (start finish : String) (h : segment.toList =
    start.toList ++ (name.toList ++ finish.toList)) : segment = start ++ name ++ finish := by
  rw [← String.toList_inj, h, String.toList_append, String.toList_append, List.append_assoc]

/-- A segment gives a parameter exactly if it is the parameter's name in its brackets. -/
theorem ofSegment?_eq_some : ofSegment? segment = some param ↔
    param.IsSound ∧ segment = param.brackets := by
  constructor
  · intro h
    simp only [ofSegment?, Option.orElse_eq_orElse, Option.orElse_eq_or, Option.or_eq_some_iff] at h
    rcases h with h | ⟨-, h | ⟨-, h⟩⟩
    all_goals
      obtain ⟨name, hword, rfl⟩ := Option.map_eq_some_iff.1 h
      obtain ⟨hname, htext⟩ := wordBetween_eq_some.1 hword
    · exact ⟨⟨hname, fun h => nomatch h⟩, eq_of_toList "[" "]" htext⟩
    · exact ⟨⟨hname, fun h => nomatch h⟩, eq_of_toList "[..." "]" htext⟩
    · exact ⟨⟨hname, fun _ => rfl⟩, eq_of_toList "[[..." "]]" htext⟩
  · rintro ⟨⟨hname, harray⟩, rfl⟩
    obtain ⟨name, isArray, isOptional⟩ := param
    cases isOptional with
    | true =>
      obtain rfl := harray rfl
      exact ofSegment?_optionalRest hname
    | false =>
      cases isArray with
      | true => exact ofSegment?_rest hname
      | false => exact ofSegment?_one hname

end RouteParam

/-! ## Fields of a path -/

/-- The query field that a segment declares by its brackets. -/
inductive Bracketed : String → Field → Prop where
  /-- one segment of the path, as text or as a number -/
  | one {name : String} (h : IsParamName name) :
      Bracketed ("[" ++ name ++ "]") { name, type := .stringOrNumber }
  /-- the rest of the path, at least one segment -/
  | rest {name : String} (h : IsParamName name) :
      Bracketed ("[..." ++ name ++ "]") { name, type := .array .stringOrNumber }
  /-- the rest of the path, if there is any -/
  | optionalRest {name : String} (h : IsParamName name) :
      Bracketed ("[[..." ++ name ++ "]]")
        { name, type := .array .stringOrNumber, optional := true }

/-- The query fields of a path's segments: one for each bracketed segment, in order. -/
inductive Declares : List String → List Field → Prop where
  | nil : Declares [] []
  | bracketed {segment : String} {segments : List String} {field : Field} {fields : List Field}
      (h : Bracketed segment field) (rest : Declares segments fields) :
      Declares (segment :: segments) (field :: fields)
  | plain {segment : String} {segments : List String} {fields : List Field}
      (h : ∀ field, ¬ Bracketed segment field) (rest : Declares segments fields) :
      Declares (segment :: segments) fields

theorem bracketed_iff {segment : String} {field : Field} : Bracketed segment field ↔
    ∃ param, RouteParam.ofSegment? segment = some param ∧ field = param.field := by
  constructor
  · rintro (h | h | h)
    · exact ⟨_, RouteParam.ofSegment?_one h, rfl⟩
    · exact ⟨_, RouteParam.ofSegment?_rest h, rfl⟩
    · exact ⟨_, RouteParam.ofSegment?_optionalRest h, rfl⟩
  · rintro ⟨⟨name, isArray, isOptional⟩, hparam, rfl⟩
    obtain ⟨⟨hname, harray⟩, rfl⟩ := RouteParam.ofSegment?_eq_some.1 hparam
    cases isOptional with
    | true =>
      obtain rfl := harray rfl
      exact .optionalRest hname
    | false =>
      cases isArray with
      | true => exact .rest hname
      | false => exact .one hname

/-- The fields of a path's segments are those of the route's parameters. -/
theorem declares_iff {segments : List String} {fields : List Field} : Declares segments fields ↔
    fields = (segments.filterMap RouteParam.ofSegment?).map RouteParam.field := by
  constructor
  · intro h
    induction h with
    | nil => rfl
    | bracketed h _ ih =>
      obtain ⟨param, hparam, rfl⟩ := bracketed_iff.1 h
      rw [List.filterMap_cons_some hparam, List.map_cons, ih]
    | plain h _ ih =>
      rw [List.filterMap_cons_none, ih]
      rw [Option.eq_none_iff_forall_ne_some]
      exact fun param hparam => h _ (bracketed_iff.2 ⟨param, hparam, rfl⟩)
  · rintro rfl
    induction segments with
    | nil => exact .nil
    | cons segment segments ih =>
      cases hparam : RouteParam.ofSegment? segment with
      | some param =>
        rw [List.filterMap_cons_some hparam, List.map_cons]
        exact .bracketed (bracketed_iff.2 ⟨param, hparam, rfl⟩) ih
      | none =>
        rw [List.filterMap_cons_none hparam]
        refine .plain (fun field h => ?_) ih
        obtain ⟨param, hsome, -⟩ := bracketed_iff.1 h
        rw [hparam] at hsome
        cases hsome

end ApiShapes
