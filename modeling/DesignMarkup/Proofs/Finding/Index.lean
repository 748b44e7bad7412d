import DesignMarkup.Finding.Basic
import DesignMarkup.Proofs.Dict
import Mathlib.Data.List.Induction
import Mathlib.Data.List.Nodup
/-!
Findings by the elements that they are about. A finding is addressed to at least one id and to none
twice, however it was made; so the index lists it once under each of these, in the order of discovery,
and under no other.
-/
namespace DesignMarkup

namespace Dict
variable {α : Type}

def enter (index : Dict (List α)) (entry : String × α) : Dict (List α) :=
  index.insert entry.1 ((index.get? entry.1).getD [] ++ [entry.2])

def valuesOf (key : String) (entries : List (String × α)) : List α :=
  (entries.filter (·.1 = key)).map Prod.snd

theorem valuesOf_append (key : String) (entries more : List (String × α)) :
    valuesOf key (entries ++ more) = valuesOf key entries ++ valuesOf key more := by
  rw [valuesOf, List.filter_append, List.map_append]
  rfl

theorem valuesOf_singleton (key : String) (entry : String × α) :
    valuesOf key [entry] = if entry.1 = key then [entry.2] else [] := by
  by_cases here : entry.1 = key <;> simp [valuesOf, here]

theorem get?_enter (index : Dict (List α)) (entry : String × α) (key : String) :
    (index.enter entry).get? key = if entry.1 = key then
      some ((index.get? key).getD [] ++ [entry.2]) else index.get? key := by
  rw [enter, get?_insert]
  by_cases here : entry.1 = key
  · rw [if_pos here, if_pos here, here]
  · rw [if_neg here, if_neg here]

theorem get?_entered (entries : List (String × α)) (key : String) :
    get? (entries.foldl enter []) key =
      if valuesOf key entries = [] then none else some (valuesOf key entries) := by
  induction entries using List.reverseRecOn with
  | nil => rfl
  | append_singleton entries entry ih =>
    rw [List.foldl_concat, get?_enter, ih, valuesOf_append, valuesOf_singleton]
    by_cases here : entry.1 = key
    · by_cases first : valuesOf key entries = [] <;> simp [here, first]
    · simp [here]

theorem entered_sorted (entries : List (String × α)) : Sorted (entries.foldl enter []) := by
  induction entries using List.reverseRecOn with
  | nil => exact List.Pairwise.nil
  | append_singleton entries entry ih =>
    rw [List.foldl_concat]
    exact ih.insert _ _

end Dict

namespace Finding

inductive Made : Finding → Prop
  | about (name : String) (severity : Severity) (id title message : String) :
    Made (about name severity id title message)
  | withNode {f : Finding} (id : String) (made : Made f) : Made (f.withNode id)
  | withChineseName {f : Finding} (name : String) (made : Made f) : Made (f.withChineseName name)
  | withDescription {f : Finding} (text : String) (made : Made f) : Made (f.withDescription text)
  | withDocUrl {f : Finding} (url : String) (made : Made f) : Made (f.withDocUrl url)
  | withColor {f : Finding} (color : String) (made : Made f) : Made (f.withColor color)
  | conflict {c : ImportConflict} {f : Finding} (told : dependencyConflict? c = some f) : Made f

/-- It names some id and none twice. -/
structure Addressed (f : Finding) : Prop where
  named : f.nodeIds ≠ []
  once : f.nodeIds.Nodup

theorem addressed_about (name : String) (severity : Severity) (id title message : String) :
    (about name severity id title message).Addressed :=
  ⟨List.cons_ne_nil _ _, List.nodup_singleton _⟩

section
variable {f : Finding} {fs gs : List Finding} {id : String}

theorem Addressed.withNode (addressed : f.Addressed) (id : String) : (f.withNode id).Addressed := by
  unfold Finding.withNode
  split
  · exact addressed
  · rename_i new
    refine ⟨by simp, ?_⟩
    rw [← List.concat_eq_append]
    exact addressed.once.concat new

theorem Addressed.withNodes (addressed : f.Addressed) (ids : List String) :
    (ids.foldl Finding.withNode f).Addressed := by
  induction ids generalizing f with
  | nil => exact addressed
  | cons id rest ih => exact ih (addressed.withNode id)

theorem addressed_conflict {c : ImportConflict} (told : dependencyConflict? c = some f) :
    f.Addressed := by
  unfold dependencyConflict? at told
  split at told
  · cases told
  · rename_i first rest _
    obtain rfl := Option.some.inj told
    have one : [first].Nodup := List.nodup_singleton first
    exact Addressed.withNodes ⟨List.cons_ne_nil _ _, one⟩ rest

theorem Made.addressed (made : f.Made) : f.Addressed := by
  induction made with
  | about name severity id title message => exact addressed_about name severity id title message
  | withNode id _ before => exact before.withNode id
  | withChineseName _ _ before => exact ⟨before.named, before.once⟩
  | withDescription _ _ before => exact ⟨before.named, before.once⟩
  | withDocUrl _ _ before => exact ⟨before.named, before.once⟩
  | withColor _ _ before => exact ⟨before.named, before.once⟩
  | conflict told => exact addressed_conflict told

def addresses (fs : List Finding) : List (String × Finding) :=
  fs.flatMap fun f => f.nodeIds.map (·, f)

theorem byNode_eq (fs : List Finding) : byNode fs = (addresses fs).foldl Dict.enter [] := rfl

theorem valuesOf_own (once : f.nodeIds.Nodup) (id : String) :
    Dict.valuesOf id (f.nodeIds.map (·, f)) = if id ∈ f.nodeIds then [f] else [] := by
  have same : (f.nodeIds.map (·, f)).filter (·.1 = id) = (f.nodeIds.filter (· == id)).map (·, f) := by
    rw [List.filter_map]
    rfl
  rw [Dict.valuesOf, same, List.filter_beq]
  by_cases named : id ∈ f.nodeIds
  · rw [if_pos named, List.count_eq_one_of_mem once named]
    rfl
  · rw [if_neg named, List.count_eq_zero_of_not_mem named]
    rfl

theorem valuesOf_addresses (addressed : ∀ f ∈ fs, f.Addressed) (id : String) :
    Dict.valuesOf id (addresses fs) = fs.filter (id ∈ ·.nodeIds) := by
  induction fs with
  | nil => rfl
  | cons f rest ih =>
    obtain ⟨first, later⟩ := List.forall_mem_cons.1 addressed
    rw [addresses, List.flatMap_cons, ← addresses, Dict.valuesOf_append, valuesOf_own first.once,
      ih later]
    by_cases named : id ∈ f.nodeIds <;> simp [named]

theorem addresses_append (fs gs : List Finding) :
    addresses (fs ++ gs) = addresses fs ++ addresses gs :=
  List.flatMap_append ..

theorem get?_byNode_append (fs gs : List Finding) (id : String) :
    (byNode (fs ++ gs)).get? id =
      Option.merge (· ++ ·) ((byNode fs).get? id) ((byNode gs).get? id) := by
  simp only [byNode_eq, Dict.get?_entered, addresses_append, Dict.valuesOf_append]
  by_cases first : Dict.valuesOf id (addresses fs) = [] <;>
    by_cases second : Dict.valuesOf id (addresses gs) = [] <;> simp [first, second]

theorem get?_byNode (addressed : ∀ f ∈ fs, f.Addressed) (id : String) :
    (byNode fs).get? id = if ∃ f ∈ fs, id ∈ f.nodeIds then some (fs.filter (id ∈ ·.nodeIds))
      else none := by
  rw [byNode_eq, Dict.get?_entered, valuesOf_addresses addressed]
  by_cases named : ∃ f ∈ fs, id ∈ f.nodeIds
  · rw [if_pos named, if_neg]
    simpa using named
  · rw [if_neg named, if_pos]
    simpa using named

end

/-- Findings name some id each and none twice. Their index has, in ascending order, the ids that they
name, and under each the findings that name it, each once and in their order. The index of a longer list
has the entries of its parts behind one another. -/
theorem findings_indexed {fs : List Finding} (made : ∀ f ∈ fs, f.Made) :
    (∀ f ∈ fs, f.nodeIds ≠ [] ∧ f.nodeIds.Nodup) ∧
    Dict.Sorted (byNode fs) ∧
    (∀ id, (byNode fs).get? id =
      if ∃ f ∈ fs, id ∈ f.nodeIds then some (fs.filter (id ∈ ·.nodeIds)) else none) ∧
    ∀ gs id, (byNode (fs ++ gs)).get? id =
      Option.merge (· ++ ·) ((byNode fs).get? id) ((byNode gs).get? id) := by
  have addressed : ∀ f ∈ fs, f.Addressed := fun f member => (made f member).addressed
  refine ⟨?_, Dict.entered_sorted _, get?_byNode addressed, get?_byNode_append fs⟩
  intro f member
  exact ⟨(addressed f member).named, (addressed f member).once⟩

def menuConflict : ImportConflict := ⟨"Menu", "ui", true, ["1:1", "1:2", "1:1", "1:2"]⟩

theorem menu_findings_indexed :
    let note := ((about "note" .info "1:2" "" "").withNode "1:3").withNode "1:2"
    ∃ warning, dependencyConflict? menuConflict = some warning ∧
      (∀ f ∈ [note, warning], f.Made) ∧ warning.nodeIds = ["1:1", "1:2"] ∧
      (byNode [note, warning]).get? "1:2" = some [note, warning] ∧
      (byNode [note, warning]).get? "1:1" = some [warning] ∧
      (byNode [note, warning]).get? "9:9" = none := by
  intro note
  obtain ⟨warning, told⟩ : ∃ warning, dependencyConflict? menuConflict = some warning := ⟨_, rfl⟩
  have ids : warning.nodeIds = ["1:1", "1:2"] := by
    cases told
    decide
  have notes : note.nodeIds = ["1:2", "1:3"] := by decide
  have made : ∀ f ∈ [note, warning], f.Made := by
    simp only [List.forall_mem_cons, List.not_mem_nil, false_implies, implies_true, and_true]
    exact ⟨((Made.about ..).withNode "1:3").withNode "1:2", .conflict told⟩
  obtain ⟨_, _, indexed, _⟩ := findings_indexed made
  refine ⟨warning, told, made, ids, ?_, ?_, ?_⟩
  · simp [indexed, notes, ids]
  · simp [indexed, notes, ids]
  · simp [indexed, notes, ids]

end Finding
end DesignMarkup
