import DesignMarkup.Finding.Basic
import DesignMarkup.Proofs.Dependency
import Mathlib.Data.List.Forall2
/-!
The conflicts among claims: each identity that is claimed with both import kinds has one, in the order
of the identities, and a conflict is told if one of its disputants has an id.
-/
namespace DesignMarkup

namespace Identity

def Before (a b : Identity) : Prop :=
  a.package < b.package ∨ a.package = b.package ∧ a.component < b.component

theorem atMost_iff {a b : Identity} : a.atMost b = true ↔ a.Before b ∨ a = b := by
  cases a
  cases b
  simp only [atMost, Before, mk.injEq]
  grind

theorem atMost_trans (a b c : Identity) (ab : a.atMost b = true) (bc : b.atMost c = true) :
    a.atMost c = true := by
  simp only [atMost] at *
  grind

theorem atMost_total (a b : Identity) : (a.atMost b || b.atMost a) = true := by
  simp only [atMost]
  grind

end Identity

theorem identities_before (claims : List Claim) : (identities claims).Pairwise Identity.Before := by
  have perm : (identities claims).Perm _ := List.mergeSort_perm _ _
  have distinct : (identities claims).Nodup := perm.nodup_iff.2 (eraseDups_nodup _)
  have sorted := List.pairwise_mergeSort Identity.atMost_trans Identity.atMost_total
    (claims.map (·.dependency.identity)).eraseDups
  refine List.Pairwise.imp₂ (fun a b sorted distinct => ?_) sorted distinct
  exact (Identity.atMost_iff.1 sorted).resolve_right distinct

theorem mem_identities {claims : List Claim} {key : Identity} :
    key ∈ identities claims ↔ ∃ claim ∈ claims, claim.dependency.identity = key := by
  rw [identities, List.mem_mergeSort, List.mem_eraseDups, List.mem_map]

/-- The first claim of the component, and behind it those with the other import kind. -/
def disputants (key : Identity) (claims : List Claim) : List Claim :=
  match claimsOf key claims with
  | [] => []
  | first :: rest =>
    first :: rest.filter (·.dependency.isDefault != first.dependency.isDefault)

/-- The component is claimed with both import kinds, and there is an id to tell it of. -/
structure Disputed (claims : List Claim) (key : Identity) : Prop where
  kinds : ∀ isDefault, ⟨key.component, key.package, isDefault⟩ ∈ claims.map (·.dependency)
  named : ∃ claim ∈ disputants key claims, claim.id ≠ none

/-- The finding is a warning about the component for the ids of its disputants, each named once. -/
structure Finding.Warns (f : Finding) (claims : List Claim) (key : Identity) : Prop where
  name : f.name = "dependencyConflict"
  severity : f.severity = .warning
  nodeIds : f.nodeIds = ((disputants key claims).filterMap (·.id)).eraseDups

theorem mem_of_disputant {key : Identity} {claims : List Claim} {claim : Claim}
    (disputant : claim ∈ disputants key claims) : claim ∈ claims := by
  unfold disputants at disputant
  split at disputant
  · cases disputant
  · rename_i first rest claimed
    have among : claim ∈ claimsOf key claims := by
      rw [claimed]
      rcases List.mem_cons.1 disputant with rfl | later
      · exact List.mem_cons_self
      · exact List.mem_cons_of_mem _ (List.mem_filter.1 later).1
    exact (List.mem_filter.1 among).1

theorem Finding.Warns.mem_nodeIds {f : Finding} {claims : List Claim} {key : Identity}
    (warns : f.Warns claims key) {id : String} :
    id ∈ f.nodeIds ↔ ∃ claim ∈ disputants key claims, claim.id = some id := by
  rw [warns.nodeIds, List.mem_eraseDups, List.mem_filterMap]

theorem mem_claimsOf {key : Identity} {claims : List Claim} {claim : Claim} :
    claim ∈ claimsOf key claims ↔ claim ∈ claims ∧ claim.dependency.identity = key := by
  rw [claimsOf, List.mem_filter, beq_iff_eq]

theorem mem_kinds {key : Identity} {claims : List Claim} {isDefault : Bool} :
    ⟨key.component, key.package, isDefault⟩ ∈ claims.map (·.dependency) ↔
      ∃ claim ∈ claimsOf key claims, claim.dependency.isDefault = isDefault := by
  rw [List.mem_map]
  constructor
  · rintro ⟨claim, member, same⟩
    exact ⟨claim, mem_claimsOf.2 ⟨member, by rw [same]; rfl⟩, by rw [same]⟩
  · rintro ⟨claim, member, rfl⟩
    obtain ⟨member, same⟩ := mem_claimsOf.1 member
    exact ⟨claim, member, Dependency.eq_of_identity same⟩

theorem conflict?_nodeIds {claims : List Claim} {key : Identity} {conflict : ImportConflict}
    (found : conflict? claims key = some conflict) :
    conflict.nodeIds = (disputants key claims).filterMap (·.id) := by
  unfold conflict? at found
  split at found
  · cases found
  · rename_i first rest claimed
    split at found
    · cases found
    · obtain rfl := Option.some.inj found
      cases hasId : first.id <;> simp [disputants, claimed, hasId]

theorem both_kinds_iff {first : Claim} {rest : List Claim} :
    (∀ isDefault, ∃ claim ∈ first :: rest, claim.dependency.isDefault = isDefault) ↔
      ∃ other ∈ rest, other.dependency.isDefault ≠ first.dependency.isDefault := by
  constructor
  · intro both
    obtain ⟨other, member, differs⟩ := both (!first.dependency.isDefault)
    rcases List.mem_cons.1 member with rfl | later
    · exact absurd differs (by simp)
    · exact ⟨other, later, Bool.eq_not.1 differs⟩
  · rintro ⟨other, later, differs⟩ isDefault
    by_cases same : first.dependency.isDefault = isDefault
    · exact ⟨first, List.mem_cons_self, same⟩
    · refine ⟨other, List.mem_cons_of_mem _ later, ?_⟩
      rw [Bool.eq_not.2 differs, Bool.eq_not.2 same, Bool.not_not]

theorem conflict?_isSome {claims : List Claim} {key : Identity} :
    (conflict? claims key).isSome ↔
      ∀ isDefault, ⟨key.component, key.package, isDefault⟩ ∈ claims.map (·.dependency) := by
  simp only [mem_kinds, conflict?]
  cases claimsOf key claims with
  | nil => simp
  | cons first rest =>
    rw [both_kinds_iff]
    cases others : rest.filter (·.dependency.isDefault != first.dependency.isDefault) with
    | nil =>
      simp only [others]
      simpa using others
    | cons other _ =>
      have differs : other ∈ rest.filter (·.dependency.isDefault != first.dependency.isDefault) := by
        simp [others]
      obtain ⟨member, differs⟩ := List.mem_filter.1 differs
      simp only [others]
      exact iff_of_true rfl ⟨other, member, bne_iff_ne.1 differs⟩

theorem foldl_withNode (f : Finding) (ids : List String) (distinct : f.nodeIds.eraseDups = f.nodeIds) :
    ids.foldl Finding.withNode f = { f with nodeIds := (f.nodeIds ++ ids).eraseDups } := by
  induction ids using List.reverseRecOn with
  | nil => simp [distinct]
  | append_singleton ids id ih =>
    rw [List.foldl_concat, ih, ← List.append_assoc, eraseDups_snoc, Finding.withNode]
    simp only [List.mem_eraseDups]
    split <;> rfl

theorem Finding.dependencyConflict?_warns {claims : List Claim} {key : Identity}
    {conflict : ImportConflict} {f : Finding} (found : conflict? claims key = some conflict)
    (told : dependencyConflict? conflict = some f) : f.Warns claims key := by
  have ids := conflict?_nodeIds found
  unfold dependencyConflict? at told
  split at told
  · cases told
  · rename_i first rest hasIds
    obtain rfl := Option.some.inj told
    rw [foldl_withNode _ _ (by rfl)]
    exact ⟨rfl, rfl, by rw [← ids, hasIds]; rfl⟩

theorem Finding.dependencyConflict?_isSome {conflict : ImportConflict} :
    (dependencyConflict? conflict).isSome ↔ conflict.nodeIds ≠ [] := by
  unfold dependencyConflict?
  split <;> simp [*]

def conflictWarning? (claims : List Claim) (key : Identity) : Option Finding :=
  (conflict? claims key).bind Finding.dependencyConflict?

theorem conflictWarning?_isSome {claims : List Claim} {key : Identity} :
    (conflictWarning? claims key).isSome ↔ Disputed claims key := by
  unfold conflictWarning?
  cases found : conflict? claims key with
  | none =>
    have alike : (conflict? claims key).isSome ≠ true := by simp [found]
    exact iff_of_false nofun fun disputed => alike (conflict?_isSome.2 disputed.kinds)
  | some conflict =>
    have kinds := conflict?_isSome.1 (by rw [found]; rfl)
    have named : conflict.nodeIds ≠ [] ↔ ∃ claim ∈ disputants key claims, claim.id ≠ none := by
      rw [conflict?_nodeIds found, ne_eq, List.filterMap_eq_nil_iff]
      simp
    rw [Option.bind_some, Finding.dependencyConflict?_isSome, named]
    constructor
    · intro named
      exact ⟨kinds, named⟩
    · exact Disputed.named

theorem conflictWarning?_warns {claims : List Claim} {key : Identity} {f : Finding}
    (told : conflictWarning? claims key = some f) : f.Warns claims key := by
  obtain ⟨conflict, found, told⟩ := Option.bind_eq_some_iff.1 told
  exact Finding.dependencyConflict?_warns found told

theorem conflicts_eq (claims : List Claim) :
    (conflictsOf claims).filterMap Finding.dependencyConflict? =
      (identities claims).filterMap (conflictWarning? claims) :=
  List.filterMap_filterMap

end DesignMarkup
