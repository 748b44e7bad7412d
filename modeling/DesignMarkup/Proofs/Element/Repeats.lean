import DesignMarkup.Element.Check
import Mathlib.Data.Finset.Card
import Mathlib.Data.List.Induction
/-!
Ids that come again. The violations of a tree are those of its elements, each on its own, and its repeated
ids: if no element breaks a rule on its own, a tree can be frozen exactly if no id comes again.
-/
namespace DesignMarkup

/-- The ids that stand at an earlier place already, once for each place where they come again. -/
def repeats (ids : List String) : List String :=
  (List.range ids.length).filterMap fun i => ids[i]?.filter (· ∈ ids.take i)

theorem repeats_snoc (ids : List String) (id : String) :
    repeats (ids ++ [id]) = repeats ids ++ if id ∈ ids then [id] else [] := by
  have before : ∀ i ∈ List.range ids.length,
      (ids ++ [id])[i]?.filter (· ∈ (ids ++ [id]).take i) = ids[i]?.filter (· ∈ ids.take i) := by
    intro i inside
    have short := List.mem_range.1 inside
    rw [List.getElem?_append_left short, List.take_append_of_le_length (Nat.le_of_lt short)]
  unfold repeats
  rw [List.length_append, List.length_singleton, List.range_succ, List.filterMap_append,
    List.filterMap_congr before]
  by_cases again : id ∈ ids <;> simp [Option.filter, again]

theorem repeats_eq_nil {ids : List String} : repeats ids = [] ↔ ids.Nodup := by
  induction ids using List.reverseRecOn with
  | nil => simp [repeats]
  | append_singleton ids id ih =>
    rw [repeats_snoc, List.append_eq_nil_iff, ih, ← List.concat_eq_append, List.nodup_concat]
    by_cases again : id ∈ ids <;> simp [again]

theorem repeats_length (ids : List String) : (repeats ids).length + ids.toFinset.card = ids.length := by
  induction ids using List.reverseRecOn with
  | nil => rfl
  | append_singleton ids id ih =>
    rw [repeats_snoc, List.toFinset_append]
    by_cases again : id ∈ ids
    · have same : ids.toFinset ∪ [id].toFinset = ids.toFinset := by simpa using again
      simp only [if_pos again, same, List.length_append, List.length_singleton]
      omega
    · have larger : (ids.toFinset ∪ [id].toFinset).card = ids.toFinset.card + 1 := by
        rw [Finset.card_union_of_disjoint (by simpa using again)]
        rfl
      simp only [if_neg again, larger, List.append_nil, List.length_append, List.length_singleton]
      omega

def Violation.repeatedId? : Violation → Option String
  | duplicateId id => some id
  | _ => none

namespace Element

theorem own_repeatedId? {e : Element} {v : Violation} (own : v ∈ e.ownViolations) :
    v.repeatedId? = none := by
  unfold ownViolations packageViolation? at own
  rcases List.mem_append.1 own with tag | package
  · split at tag
    · rw [List.mem_singleton.1 tag]
      rfl
    · cases tag
  · obtain ⟨package, _, found⟩ := Option.bind_eq_some_iff.1 (Option.mem_toList.1 package)
    split at found
    · cases found
      rfl
    · split at found
      · cases found
      · cases found
        rfl

theorem own_filterMap (e : Element) : e.ownViolations.filterMap Violation.repeatedId? = [] :=
  List.filterMap_eq_nil_iff.2 fun _ => own_repeatedId?

theorem own_filter (e : Element) : e.ownViolations.filter (·.repeatedId?.isNone) = e.ownViolations :=
  List.filter_eq_self.2 fun _ own => by rw [own_repeatedId? own]; rfl

/-- `before` are the ids of the elements that were visited before. -/
theorem violationsFrom_repeats {es : List Element} {seen : List String} (before : List String)
    (same : ∀ id, id ∈ seen ↔ id ∈ before) :
    repeats before ++ (violationsFrom seen es).filterMap Violation.repeatedId? =
      repeats (before ++ es.filterMap (·.id)) := by
  -- What was seen holds each id once and in another order, so the two agree on membership alone.
  induction es generalizing before seen with
  | nil => simp [violationsFrom]
  | cons e rest ih =>
    rw [violationsFrom]
    cases hasId : e.id with
    | none =>
      rw [List.filterMap_append, own_filterMap, List.nil_append, List.filterMap_cons_none hasId]
      exact ih before same
    | some id =>
      rw [List.filterMap_cons_some hasId, List.append_cons]
      by_cases again : id ∈ seen
      · have still : ∀ other, other ∈ seen ↔ other ∈ before ++ [id] := by grind
        rw [← ih (before ++ [id]) still, repeats_snoc, if_pos ((same id).1 again)]
        simp [again, own_filterMap, Violation.repeatedId?]
      · have now : ∀ other, other ∈ id :: seen ↔ other ∈ before ++ [id] := by grind
        rw [← ih (before ++ [id]) now, repeats_snoc, if_neg (mt (same id).2 again)]
        simp [again, own_filterMap]

theorem violationsFrom_own (seen : List String) (es : List Element) :
    (violationsFrom seen es).filter (·.repeatedId?.isNone) = es.flatMap ownViolations := by
  induction es generalizing seen with
  | nil => rfl
  | cons e rest ih =>
    rw [violationsFrom, List.flatMap_cons]
    split
    · rw [List.filter_append, own_filter, ih]
    · split
      · rw [List.filter_append, own_filter, List.filter_cons_of_neg (by simp [Violation.repeatedId?]), ih]
      · rw [List.filter_append, own_filter, ih]

theorem repeatedIds_eq (e : Element) : e.violations.filterMap Violation.repeatedId? = repeats e.ids :=
  violationsFrom_repeats [] fun _ => Iff.rfl

theorem violations_own {e : Element} :
    (∀ v ∈ e.violations, v.repeatedId? ≠ none) ↔ ∀ d ∈ e.visit, d.ownViolations = [] := by
  rw [← List.flatMap_eq_nil_iff, ← violationsFrom_own [], List.filter_eq_nil_iff]
  simp only [Option.isNone_iff_eq_none, violations, ne_eq]

theorem violations_repeats {e : Element} (own : ∀ d ∈ e.visit, d.ownViolations = []) :
    e.violations = (repeats e.ids).map .duplicateId := by
  rw [← repeatedIds_eq, List.map_filterMap]
  have each : ∀ v ∈ e.violations, v.repeatedId?.map Violation.duplicateId = some v := by
    intro v member
    cases v with
    | duplicateId id => rfl
    | _ => exact absurd rfl (violations_own.2 own _ member)
  rw [List.filterMap_congr each, List.filterMap_some]

theorem violations_eq_nil {e : Element} :
    e.violations = [] ↔ (∀ d ∈ e.visit, d.ownViolations = []) ∧ e.ids.Nodup := by
  constructor
  · intro sound
    have unrepeated : repeats e.ids = [] := by rw [← repeatedIds_eq, sound]; rfl
    exact ⟨violations_own.1 (by simp [sound]), repeats_eq_nil.1 unrepeated⟩
  · intro ⟨own, distinct⟩
    rw [violations_repeats own, repeats_eq_nil.2 distinct]
    rfl

theorem freeze_eq_ok {e : Element} {frozen : Frozen} : e.freeze = .ok frozen ↔ frozen.element = e := by
  unfold freeze
  split
  · constructor
    · rintro ⟨⟩
      rfl
    · intro same
      cases frozen
      cases same
      rfl
  · rename_i broken
    constructor
    · intro failed
      cases failed
    · rintro rfl
      exact absurd frozen.sound broken

theorem freezes_iff {e : Element} :
    (∃ frozen, e.freeze = .ok frozen ∧ frozen.element = e) ↔ e.violations = [] := by
  constructor
  · rintro ⟨frozen, _, rfl⟩
    exact frozen.sound
  · intro sound
    exact ⟨⟨e, sound⟩, freeze_eq_ok.2 rfl, rfl⟩

end Element
end DesignMarkup
