import ApiShapes.Proofs.Artifact.Declared
import ApiShapes.Proofs.Handler.Entries
import Mathlib.Data.List.Nodup

/-!
# The names of one route are distinct

* `method_append_inj` : no method's name in camel case begins another's, so that it can be taken off a name;
* `routeName_key` : the camel case of a route's key begins with `Api`, as no side of an exchange does;
* `aliasName_inj`, `aliasName_ne_indexName` : aliases of one route differ by method and side, and from the
  names of all interfaces;
* `recognizedKeys`, `nodup_methods` : a table without a verb twice has one handler for each method at most;
* `aliasNames_distinct` : in the artifact of such a file no two aliases have one name, and none has that of an
  interface.
-/

namespace ApiShapes

open Text

/-! ## Methods and sides in names -/

theorem Method.mem_all (method : Method) : method ∈ Method.all := by
  cases method <;> decide

theorem method_eq_of_starts {method other : Method}
    (h : (upperCamel method.key).toList <+: (upperCamel other.key).toList) : method = other := by
  have hall : ∀ method ∈ Method.all, ∀ other ∈ Method.all,
      (upperCamel method.key).toList <+: (upperCamel other.key).toList → method = other := by
    decide +kernel
  exact hall method method.mem_all other other.mem_all h

/-- A name tells the method it begins with, and what follows it. -/
theorem method_append_inj {method other : Method} {s t : String}
    (h : upperCamel method.key ++ s = upperCamel other.key ++ t) : method = other ∧ s = t := by
  rw [← String.toList_inj, String.toList_append, String.toList_append] at h
  have hmethod : (upperCamel method.key).toList <+: (upperCamel other.key).toList ++ t.toList := ⟨_, h⟩
  obtain rfl : method = other := by
    rcases List.prefix_or_prefix_of_prefix hmethod (List.prefix_append _ _) with hprefix | hprefix
    · exact method_eq_of_starts hprefix
    · exact (method_eq_of_starts hprefix).symm
  exact ⟨rfl, String.toList_inj.1 (List.append_cancel_left h)⟩

theorem side_inj {side other : Side} (h : upperCamel side.suffixText = upperCamel other.suffixText) :
    side = other := by
  revert h
  cases side <;> cases other <;> decide

def aliasRest (key : String) (side : Side) : String :=
  routeName key ++ upperCamel side.suffixText

theorem aliasName_eq (key : String) (method : Method) (side : Side) :
    aliasName key method side = upperCamel method.key ++ aliasRest key side := by
  rw [aliasName, aliasRest, String.append_assoc]

theorem aliasName_inj {key : String} {method other : Method} {side side' : Side}
    (h : aliasName key method side = aliasName key other side') : method = other ∧ side = side' := by
  rw [aliasName_eq, aliasName_eq] at h
  obtain ⟨hmethod, hrest⟩ := method_append_inj h
  rw [aliasRest, aliasRest, ← String.toList_inj, String.toList_append, String.toList_append] at hrest
  exact ⟨hmethod, side_inj (String.toList_inj.1 (List.append_cancel_left hrest))⟩

/-! ## Keys of routes -/

variable {root file : Path}

theorem routeName_key (root file : Path) :
    ∃ rest, (routeName (Route.ofFile root file).key).toList = 'A' :: 'p' :: 'i' :: rest := by
  have hapi : (upperCamel (bareSegment Route.namespaceKey)).toList = ['A', 'p', 'i'] := by decide
  rw [Route.ofFile_eq, routeName, slashPieces_append,
    slashPieces_of_notMem (s := Route.namespaceKey) (by decide), List.singleton_append, List.map_cons,
    String.toList_join, List.flatMap_cons, hapi]
  exact ⟨_, rfl⟩

theorem aliasName_ne_indexName (method other : Method) (side side' : Side) :
    aliasName (Route.ofFile root file).key method side ≠ indexName other side' := by
  intro h
  rw [aliasName_eq, indexName] at h
  obtain ⟨-, hrest⟩ := method_append_inj h
  obtain ⟨rest, hapi⟩ := routeName_key root file
  have hsuffix : ∀ side : Side, side.suffixText.toList.head? = some 'R' := by
    rintro (_ | _) <;> decide
  have hhead := hsuffix side'
  rw [← hrest, aliasRest, String.toList_append, hapi] at hhead
  cases hhead

/-! ## Handlers of one file -/

/-- The keys of a table that are verbs. -/
def recognizedKeys (table : List ObjectProperty) : List String :=
  table.filterMap fun entry => entry.key.filter fun key => (Method.ofKey? key).isSome

variable {checker : Checker} {framework : Framework}

theorem key_of_ofKey? {key : String} {method : Method} (h : Method.ofKey? key = some method) :
    method.key = key := by
  simpa using List.find?_some h

/-- The methods of handlers are verbs of the table, in its order. -/
theorem methods_sublist (scope : NodeId) (table : List ObjectProperty) :
    ((table.filterMap (extractEntry checker framework scope)).map fun handler => handler.method.key).Sublist
      (recognizedKeys table) := by
  induction table with
  | nil => exact .refl _
  | cons entry table ih =>
    rw [recognizedKeys, ← List.singleton_append, List.filterMap_append, List.filterMap_append,
      List.map_append]
    refine List.Sublist.append ?_ ih
    cases hentry : extractEntry checker framework scope entry with
    | none => simp [hentry]
    | some handler =>
      have hbind := hentry
      rw [extractEntry_eq_bind] at hbind
      obtain ⟨method, hmethod, hhandler⟩ := Option.bind_eq_some_iff.1 hbind
      obtain ⟨key, hkey, hverb⟩ := Option.bind_eq_some_iff.1 hmethod
      obtain ⟨params, -, rfl⟩ := Option.map_eq_some_iff.1 hhandler
      simp [hentry, hkey, hverb, key_of_ofKey? hverb]

/-- A table without a verb twice has no two handlers of one method. -/
theorem nodup_methods (h : ∀ scope table, methodTable checker file = some (scope, table) →
    (recognizedKeys table).Nodup) : ((extractHandlers checker framework file).map Handler.method).Nodup := by
  unfold extractHandlers
  split
  · rename_i scope table htable
    have hkeys : ((table.filterMap (extractEntry checker framework scope)).map
        (Method.key ∘ Handler.method)).Nodup := (methods_sublist scope table).nodup (h scope table htable)
    rw [← List.map_map] at hkeys
    exact hkeys.of_map
  · exact List.nodup_nil

def handlerNames (key : String) (handler : Handler) : List String :=
  [aliasName key handler.method .request, aliasName key handler.method .response]

theorem exists_side_of_mem {key name : String} {handler : Handler} (h : name ∈ handlerNames key handler) :
    ∃ side, name = aliasName key handler.method side := by
  rcases List.mem_cons.1 h with rfl | h
  · exact ⟨.request, rfl⟩
  · exact ⟨.response, List.mem_singleton.1 h⟩

theorem nodup_handlerNames (key : String) {handlers : List Handler}
    (h : (handlers.map Handler.method).Nodup) : (handlers.flatMap (handlerNames key)).Nodup := by
  rw [List.nodup_flatMap]
  constructor
  · intro handler _
    rw [handlerNames, List.nodup_cons, List.mem_singleton]
    refine ⟨fun hname => ?_, List.nodup_singleton _⟩
    cases (aliasName_inj hname).2
  · refine (List.pairwise_map.1 h).imp fun {handler other} hne name hname hother => hne ?_
    obtain ⟨side, rfl⟩ := exists_side_of_mem hname
    obtain ⟨side', heq⟩ := exists_side_of_mem hother
    exact (aliasName_inj heq).1

/-- No handler of a route has an alias with the name of an interface. -/
theorem ne_indexName_of_mem {handlers : List Handler} {name : String}
    (h : name ∈ handlers.flatMap (handlerNames (Route.ofFile root file).key)) (method : Method)
    (side : Side) : name ≠ indexName method side := by
  obtain ⟨handler, -, hname⟩ := List.mem_flatMap.1 h
  obtain ⟨_, rfl⟩ := exists_side_of_mem hname
  exact aliasName_ne_indexName _ _ _ _

/-! ## Names in an artifact -/

theorem names_fileRecords : (fileRecords checker framework root file).map Record.name =
    (extractHandlers checker framework file).flatMap (handlerNames (Route.ofFile root file).key) := by
  rw [fileRecords, List.map_flatMap]
  rfl

namespace Declared

def aliasName? : Declared → Option String
  | .alias name _ => some name
  | .entry .. => none

def interfaceName? : Declared → Option String
  | .alias .. => none
  | .entry index _ _ => some index

theorem aliasNames_ofHandlers (route : Route) (handlers : List Handler) :
    (handlers.flatMap (ofHandler route)).filterMap aliasName? = handlers.flatMap (handlerNames route.key) := by
  rw [List.filterMap_flatMap]
  rfl

theorem exists_of_interfaceName {route : Route} {handlers : List Handler} {name : String}
    (h : name ∈ (handlers.flatMap (ofHandler route)).filterMap interfaceName?) :
    ∃ method side, name = indexName method side := by
  obtain ⟨declared, hmem, hname⟩ := List.mem_filterMap.1 h
  obtain ⟨handler, -, hmem⟩ := List.mem_flatMap.1 hmem
  simp only [ofHandler, List.mem_cons, List.not_mem_nil, or_false] at hmem
  rcases hmem with rfl | rfl | rfl | rfl
  · cases hname
  · exact ⟨handler.method, .request, (Option.some.inj hname).symm⟩
  · cases hname
  · exact ⟨handler.method, .response, (Option.some.inj hname).symm⟩

end Declared

/-- What the artifact of one file declares, as read from its text. -/
theorem filterMap_ofBlock?_renderArtifact (hfile : '\n' ∉ file.text.toList) :
    (blankPieces (renderArtifact checker framework root [file]).toList).filterMap Declared.ofBlock? =
      (extractHandlers checker framework file).flatMap (Declared.ofHandler (Route.ofFile root file)) := by
  by_cases hhandlers : extractHandlers checker framework file = []
  · have htext : renderArtifact checker framework root [file] = "" := by
      rw [renderArtifact, List.flatMap_singleton, fileRecords, hhandlers]
      rfl
    rw [htext, hhandlers]
    rfl
  · have hread := @map_ofBlock?_renderArtifact checker framework root [file] (by simpa using hfile)
      (by simpa using hhandlers)
    rw [List.flatMap_singleton] at hread
    have hsome := congrArg (List.filterMap id) hread
    rwa [List.filterMap_map, List.filterMap_map, Function.id_comp, Function.id_comp,
      List.filterMap_some] at hsome

/-- **The names of one route do not clash.** The aliases of a route differ for any two methods or sides, and
none has the name of an interface; behind the method stands what the key and the side give. In the artifact of
a file whose table has no verb twice, the aliases have names of their own, and so they have when they are read
from the text, which tells them apart unless the file's path has a line break. -/
theorem aliasNames_distinct (root file : Path) :
    let key := (Route.ofFile root file).key
    (∀ method other side side', aliasName key method side = aliasName key other side' →
      method = other ∧ side = side') ∧
    (∀ method other side side', aliasName key method side ≠ indexName other side') ∧
    (∀ side, ∃ rest : String, ∀ method, dropStart (upperCamel method.key).toList
      (aliasName key method side).toList = some rest.toList) ∧
    ∀ (checker : Checker) (framework : Framework),
      (∀ scope table, methodTable checker file = some (scope, table) → (recognizedKeys table).Nodup) →
      let records := fileRecords checker framework root file
      let declared :=
        (blankPieces (renderArtifact checker framework root [file]).toList).filterMap Declared.ofBlock?
      renderArtifact checker framework root [file] = "\n\n".intercalate (records.map Record.print) ∧
      (records.map Record.name).Nodup ∧
      (∀ r ∈ records, ∀ r' ∈ records, r.name ≠ indexName r'.method r'.side) ∧
      ('\n' ∉ file.text.toList → (declared.filterMap Declared.aliasName?).Nodup ∧
        ∀ name ∈ declared.filterMap Declared.aliasName?,
          name ∉ declared.filterMap Declared.interfaceName?) := by
  intro key
  refine ⟨fun _ _ _ _ h => aliasName_inj h, fun _ _ _ _ => aliasName_ne_indexName _ _ _ _,
    fun side => ⟨aliasRest key side, fun method => ?_⟩, fun checker framework htable => ?_⟩
  · rw [aliasName_eq, String.toList_append, dropStart_append]
  · intro records declared
    have hnames : ((extractHandlers checker framework file).flatMap (handlerNames key)).Nodup :=
      nodup_handlerNames key (nodup_methods htable)
    refine ⟨?_, ?_, fun r hr r' _ => ?_, fun hfile => ?_⟩
    · rw [renderArtifact, List.flatMap_singleton]
    · rwa [names_fileRecords]
    · have hname : r.name ∈ records.map Record.name := List.mem_map_of_mem hr
      rw [names_fileRecords] at hname
      exact ne_indexName_of_mem hname r'.method r'.side
    · have hread : declared = _ := filterMap_ofBlock?_renderArtifact hfile
      rw [hread, Declared.aliasNames_ofHandlers]
      refine ⟨hnames, fun name hname hinterface => ?_⟩
      obtain ⟨method, side, rfl⟩ := Declared.exists_of_interfaceName hinterface
      exact ne_indexName_of_mem hname method side rfl

/-- A route whose segments are called like a method and like a side. -/
theorem aliasNames_distinct_get :
    let root := Path.ofString "/app/pages/api"
    let item := Path.ofString "/app/pages/api/get/[Response].ts"
    let program : Program := ((Program.mk {} [] [item] {}).addFile item (some
      "export default t(\x7b GET: (q, r) => 0, x: 1, PUT: (q, r) => 0 \x7d);")).2
    let declared :=
      (blankPieces (renderArtifact program.checker {} root [item]).toList).filterMap Declared.ofBlock?
    (∀ scope table, methodTable program.checker item = some (scope, table) → (recognizedKeys table).Nodup) ∧
      aliasName (Route.ofFile root item).key .get .request = "GetApiGetResponseRequest" ∧
      (∀ method side, aliasName (Route.ofFile root item).key .get .request ≠ indexName method side) ∧
      (declared.filterMap Declared.aliasName?).Nodup ∧
      ∀ name ∈ declared.filterMap Declared.aliasName?, name ∉ declared.filterMap Declared.interfaceName? := by
  intro root item program declared
  have hkeys : (methodTable program.checker item).map (fun found => recognizedKeys found.2) =
      some ["GET", "PUT"] := by decide +kernel
  have htable : ∀ scope table, methodTable program.checker item = some (scope, table) →
      (recognizedKeys table).Nodup := by
    intro scope table htable
    rw [htable] at hkeys
    rw [show recognizedKeys table = ["GET", "PUT"] from Option.some.inj hkeys]
    decide
  obtain ⟨-, hindex, -, hartifact⟩ := aliasNames_distinct root item
  obtain ⟨-, -, -, htext⟩ := hartifact program.checker {} htable
  exact ⟨htable, by decide, fun method side => hindex .get method .request side, htext (by decide)⟩

end ApiShapes
