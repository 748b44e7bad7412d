import DesignMarkup.Proofs.Element.Visit
import DesignMarkup.Proofs.Import.Conflict
/-!
The imports of a tree list each component that one of its elements takes from a package, once and with
the import kind of the first element that does; the conflicts are the components taken with both kinds.
-/
namespace DesignMarkup

namespace Identity

theorem Before.ne {a b : Identity} (before : a.Before b) : a ≠ b := by
  rintro rfl
  rcases before with package | ⟨_, component⟩
  · exact String.lt_irrefl _ package
  · exact String.lt_irrefl _ component

theorem Before.asymm {a b : Identity} (ab : a.Before b) : ¬ b.Before a := by
  intro ba
  unfold Before at ab ba
  grind

theorem Before.package_le {a b : Identity} (before : a.Before b) : a.package ≤ b.package := by
  unfold Before at before
  grind

theorem eq_of_before {xs ys : List Identity} (hx : xs.Pairwise Before) (hy : ys.Pairwise Before)
    (members : ∀ key, key ∈ xs ↔ key ∈ ys) : xs = ys := by
  have perm : xs.Perm ys :=
    (List.perm_ext_iff_of_nodup (hx.imp Before.ne) (hy.imp Before.ne)).2 members
  exact perm.eq_of_pairwise (fun _ _ _ _ ab ba => absurd ba ab.asymm) hx hy

end Identity

theorem packages_ascend {keys : List Identity} (ordered : keys.Pairwise Identity.Before) :
    (keys.map Identity.package).eraseDups.Pairwise (· < ·) := by
  have weak : (keys.map Identity.package).Pairwise (· ≤ ·) :=
    List.pairwise_map.2 (ordered.imp Identity.Before.package_le)
  have distinct : (keys.map Identity.package).eraseDups.Nodup := eraseDups_nodup _
  refine List.Pairwise.imp₂ (fun p q le ne => ?_) (weak.sublist (eraseDups_sublist _)) distinct
  exact String.not_le.1 fun ge => ne (String.le_antisymm le ge)

theorem flatMap_groups {keys : List Identity} (ordered : keys.Pairwise Identity.Before) :
    (keys.map Identity.package).eraseDups.flatMap (fun package =>
      keys.filter (·.package == package)) = keys := by
  have packages := packages_ascend ordered
  refine Identity.eq_of_before ?_ ordered fun key => ?_
  · refine List.pairwise_flatMap.2 ⟨fun _ _ => ordered.filter _, packages.imp ?_⟩
    intro p q before a inP b inQ
    obtain ⟨_, rfl⟩ : a ∈ keys ∧ a.package = p := by simpa using inP
    obtain ⟨_, rfl⟩ : b ∈ keys ∧ b.package = q := by simpa using inQ
    exact .inl before
  · simp only [List.mem_flatMap, List.mem_eraseDups, List.mem_map, List.mem_filter, beq_iff_eq]
    constructor
    · rintro ⟨_, _, member, _⟩
      exact member
    · intro member
      exact ⟨key.package, ⟨key, member, rfl⟩, member, rfl⟩

def firstDependency? (claims : List Claim) (key : Identity) : Option Dependency :=
  (claimsOf key claims).head?.map (·.dependency)

theorem firstDependency?_identity {claims : List Claim} {key : Identity} {d : Dependency}
    (first : firstDependency? claims key = some d) : d.identity = key := by
  obtain ⟨claim, head, rfl⟩ := Option.map_eq_some_iff.1 first
  exact (mem_claimsOf.1 (List.mem_of_head? head)).2

theorem firstDependency?_mem {claims : List Claim} {key : Identity} {d : Dependency}
    (first : firstDependency? claims key = some d) : d ∈ claims.map (·.dependency) := by
  obtain ⟨claim, head, rfl⟩ := Option.map_eq_some_iff.1 first
  exact List.mem_map_of_mem (mem_claimsOf.1 (List.mem_of_head? head)).1

theorem firstDependency?_isSome {claims : List Claim} {key : Identity} :
    (firstDependency? claims key).isSome ↔ ∃ claim ∈ claims, claim.dependency.identity = key := by
  rw [firstDependency?, Option.isSome_map, List.isSome_head?, ne_eq, List.eq_nil_iff_forall_not_mem,
    not_forall_not]
  simp only [mem_claimsOf]

theorem binding?_eq (claims : List Claim) (key : Identity) :
    binding? claims key =
      (firstDependency? claims key).map fun d => ⟨key.component, d.isDefault⟩ := by
  rw [binding?, firstDependency?, Option.map_map]
  rfl

namespace Imports

def listed (imports : Imports) : List Dependency :=
  imports.flatMap fun entry => entry.2.map fun b => ⟨b.name, entry.1, b.isDefault⟩

end Imports

theorem importsOf_listed (claims : List Claim) :
    (importsOf claims).listed = (identities claims).filterMap (firstDependency? claims) := by
  have group (package : String) :
      (((identities claims).filter (·.package == package)).filterMap (binding? claims)).map
          (fun b => (⟨b.name, package, b.isDefault⟩ : Dependency)) =
        ((identities claims).filter (·.package == package)).filterMap (firstDependency? claims) := by
    rw [List.map_filterMap]
    refine List.filterMap_congr fun key member => ?_
    rw [binding?_eq, Option.map_map]
    cases first : firstDependency? claims key with
    | none => rfl
    | some d =>
      have same := Dependency.eq_of_identity (firstDependency?_identity first)
      obtain ⟨_, rfl⟩ : key ∈ identities claims ∧ key.package = package := by simpa using member
      exact congrArg some same.symm
  conv_rhs => rw [← flatMap_groups (identities_before claims), List.filterMap_flatMap]
  simp only [Imports.listed, importsOf, List.flatMap_map, group]

theorem listed_identities (claims : List Claim) :
    (importsOf claims).listed.map Dependency.identity = identities claims := by
  rw [importsOf_listed, List.map_filterMap]
  have each : ∀ key ∈ identities claims,
      (firstDependency? claims key).map Dependency.identity = some key := fun key member => by
    obtain ⟨d, first⟩ := Option.isSome_iff_exists.1 (firstDependency?_isSome.2 (mem_identities.1 member))
    rw [first, Option.map_some, firstDependency?_identity first]
  rw [List.filterMap_congr each, List.filterMap_some]

theorem mem_listed {claims : List Claim} {d : Dependency} :
    d ∈ (importsOf claims).listed ↔ firstDependency? claims d.identity = some d := by
  rw [importsOf_listed, List.mem_filterMap]
  constructor
  · rintro ⟨key, _, first⟩
    rwa [firstDependency?_identity first]
  · intro first
    have claimed := firstDependency?_isSome.1 (by rw [first]; rfl)
    exact ⟨d.identity, mem_identities.2 claimed, first⟩

theorem importsOf_sorted (claims : List Claim) : Dict.Sorted (importsOf claims) := by
  have keys : Dict.keys (importsOf claims) = ((identities claims).map Identity.package).eraseDups := by
    rw [Dict.keys, importsOf, List.map_map]
    exact List.map_id _
  rw [Dict.Sorted, keys]
  exact packages_ascend (identities_before claims)

theorem binding?_name {claims : List Claim} {key : Identity} (claimed : key ∈ identities claims) :
    (binding? claims key).map ImportBinding.name = some key.component := by
  obtain ⟨d, first⟩ := Option.isSome_iff_exists.1 (firstDependency?_isSome.2 (mem_identities.1 claimed))
  rw [binding?_eq, first]
  rfl

theorem binding_names (claims : List Claim) (package : String) :
    (((identities claims).filter (·.package == package)).filterMap (binding? claims)).map
        ImportBinding.name =
      ((identities claims).filter (·.package == package)).map Identity.component := by
  rw [List.map_filterMap, ← List.filterMap_eq_map]
  refine List.filterMap_congr fun key member => ?_
  exact binding?_name (List.mem_filter.1 member).1

theorem importsOf_names {claims : List Claim} {package : String} {bindings : List ImportBinding}
    (entry : (package, bindings) ∈ importsOf claims) :
    bindings.map ImportBinding.name =
      ((identities claims).filter (·.package == package)).map Identity.component := by
  obtain ⟨_, _, same⟩ := List.mem_map.1 entry
  obtain ⟨rfl, rfl⟩ := Prod.mk.inj same
  exact binding_names claims _

theorem importsOf_names_ascend {claims : List Claim} {package : String}
    {bindings : List ImportBinding} (entry : (package, bindings) ∈ importsOf claims) :
    (bindings.map ImportBinding.name).Pairwise (· < ·) := by
  rw [importsOf_names entry, List.pairwise_map]
  refine ((identities_before claims).filter _).imp_of_mem fun {a b} inA inB before => ?_
  obtain ⟨_, rfl⟩ : a ∈ identities claims ∧ a.package = package := by simpa using inA
  obtain ⟨_, same⟩ : b ∈ identities claims ∧ b.package = a.package := by simpa using inB
  rcases before with lower | ⟨_, lower⟩
  · exact absurd lower (same ▸ String.lt_irrefl _)
  · exact lower

theorem importsOf_ne_nil {claims : List Claim} {package : String} {bindings : List ImportBinding}
    (entry : (package, bindings) ∈ importsOf claims) : bindings ≠ [] := by
  rintro rfl
  have none := importsOf_names entry
  obtain ⟨p, known, same⟩ := List.mem_map.1 entry
  obtain ⟨rfl, -⟩ := Prod.mk.inj same
  obtain ⟨key, claimed, rfl⟩ := List.mem_map.1 (List.mem_eraseDups.1 known)
  have among : key ∈ (identities claims).filter (·.package == key.package) :=
    List.mem_filter.2 ⟨claimed, beq_self_eq_true _⟩
  rw [List.map_nil, eq_comm, List.map_eq_nil_iff] at none
  rw [none] at among
  exact nomatch among

def ImportConflict.identity (c : ImportConflict) : Identity := ⟨c.package, c.component⟩

theorem conflict?_identity {claims : List Claim} {key : Identity} {conflict : ImportConflict}
    (found : conflict? claims key = some conflict) : conflict.identity = key := by
  unfold conflict? at found
  split at found
  · cases found
  · split at found
    · cases found
    · obtain rfl := Option.some.inj found
      rfl

theorem conflict?_kept {claims : List Claim} {key : Identity} {conflict : ImportConflict}
    (found : conflict? claims key = some conflict) :
    ∃ first rest, claimsOf key claims = first :: rest ∧
      first.dependency.isDefault = conflict.keptDefault := by
  unfold conflict? at found
  split at found
  · cases found
  · rename_i first rest claimed
    split at found
    · cases found
    · obtain rfl := Option.some.inj found
      exact ⟨first, rest, claimed, rfl⟩

theorem conflictsOf_identities (claims : List Claim) :
    (conflictsOf claims).map ImportConflict.identity =
      (identities claims).filter (conflict? claims · |>.isSome) := by
  rw [conflictsOf, List.map_filterMap]
  induction identities claims with
  | nil => rfl
  | cons key rest ih =>
    cases found : conflict? claims key with
    | none => simp [found, ih]
    | some conflict => simp [found, ih, conflict?_identity found]

theorem mem_conflictsOf {claims : List Claim} {key : Identity} :
    key ∈ (conflictsOf claims).map ImportConflict.identity ↔
      ∀ isDefault, ⟨key.component, key.package, isDefault⟩ ∈ claims.map (·.dependency) := by
  rw [conflictsOf_identities, List.mem_filter, conflict?_isSome, mem_identities, and_iff_right_iff_imp]
  intro kinds
  obtain ⟨claim, member, same⟩ := List.mem_map.1 (kinds true)
  exact ⟨claim, member, by rw [same]; rfl⟩

theorem conflict?_firstDependency {claims : List Claim} {key : Identity} {c : ImportConflict}
    (found : conflict? claims key = some c) :
    firstDependency? claims key = some ⟨c.component, c.package, c.keptDefault⟩ := by
  obtain ⟨first, rest, claimed, kept⟩ := conflict?_kept found
  have head : firstDependency? claims key = some first.dependency := by
    rw [firstDependency?, claimed]
    rfl
  rw [head, Dependency.eq_of_identity (firstDependency?_identity head), kept,
    ← conflict?_identity found]
  rfl

namespace Element

def claim? (e : Element) (key : Identity) : Option Claim :=
  (e.dependencies.find? key).map fun d => ⟨e.id, d⟩

/-- The import kind with which the element takes the component from the package, if it does. -/
def kindOf? (e : Element) (key : Identity) : Option Bool :=
  (e.dependencies.find? key).map (·.isDefault)

theorem claimsOf_claims (root : Element) (key : Identity) :
    claimsOf key root.claims = root.visit.filterMap (·.claim? key) := by
  rw [claimsOf, claims, List.filter_flatMap, List.filterMap_eq_flatMap_toList]
  refine List.flatMap_congr fun e _ => ?_
  have one := filter_key e.dependencies.unique key
  rw [List.filter_map, claim?, DependencySet.find?, Option.toList_map, ← one]
  congr 2

def TakesBothWays (root : Element) (key : Identity) : Prop :=
  ∀ isDefault, ∃ e, root.Reaches e ∧
    ⟨key.component, key.package, isDefault⟩ ∈ e.dependencies.entries

theorem mem_claims_kind {root : Element} {key : Identity} {isDefault : Bool} :
    ⟨key.component, key.package, isDefault⟩ ∈ root.claims.map (·.dependency) ↔
      ∃ e, root.Reaches e ∧ ⟨key.component, key.package, isDefault⟩ ∈ e.dependencies.entries := by
  simp only [← mem_visit_iff, claims, List.map_flatMap, List.mem_flatMap, List.map_map,
    Function.comp_def, List.map_id']

theorem mem_claims_identity {root : Element} {key : Identity} :
    (∃ claim ∈ root.claims, claim.dependency.identity = key) ↔
      ∃ e, root.Reaches e ∧ key ∈ e.dependencies.entries.map Dependency.identity := by
  simp only [← mem_visit_iff, claims, List.mem_flatMap, List.mem_map]
  constructor
  · rintro ⟨_, ⟨e, visited, d, member, rfl⟩, same⟩
    exact ⟨e, visited, d, member, same⟩
  · rintro ⟨e, visited, d, member, same⟩
    exact ⟨⟨e.id, d⟩, ⟨e, visited, d, member, rfl⟩, same⟩

theorem claim?_kind (e : Element) (key : Identity) :
    (e.claim? key).map (·.dependency.isDefault) = e.kindOf? key := by
  rw [claim?, kindOf?, Option.map_map]
  rfl

theorem claim?_id {e : Element} {key : Identity} {claim : Claim} (claims : e.claim? key = some claim) :
    claim.id = e.id := by
  obtain ⟨d, _, rfl⟩ := Option.map_eq_some_iff.1 claims
  rfl

theorem firstDependency?_kind (root : Element) (key : Identity) :
    (firstDependency? root.claims key).map (·.isDefault) = root.visit.findSome? (·.kindOf? key) := by
  rw [firstDependency?, claimsOf_claims, List.head?_filterMap, Option.map_map,
    List.map_findSome?]
  exact congrArg (root.visit.findSome? ·) (funext fun e => claim?_kind e key)

theorem first_claimant {root : Element} {key : Identity} {first : Claim} {rest : List Claim}
    (claimed : claimsOf key root.claims = first :: rest) :
    ∃ e, root.visit.find? (·.kindOf? key |>.isSome) = some e ∧ first.id = e.id := by
  have head : root.visit.findSome? (·.claim? key) = some first := by
    rw [← List.head?_filterMap, ← claimsOf_claims, claimed]
    rfl
  obtain ⟨before, e, after, split, claims, none⟩ := List.findSome?_eq_some_iff.1 head
  have takes (x : Element) : (x.kindOf? key).isSome = (x.claim? key).isSome := by
    rw [← claim?_kind, Option.isSome_map]
  refine ⟨e, ?_, claim?_id claims⟩
  rw [List.find?_eq_some_iff_append]
  refine ⟨by rw [takes, claims]; rfl, before, after, split, fun x member => ?_⟩
  rw [takes, none x member]
  rfl

theorem ids_of_kind (es : List Element) (key : Identity) (kind : Bool) :
    ((es.filterMap (·.claim? key)).filter (·.dependency.isDefault = kind)).filterMap (·.id) =
      (es.filter (·.kindOf? key = some kind)).filterMap (·.id) := by
  induction es with
  | nil => rfl
  | cons e rest ih =>
    cases claims : e.claim? key with
    | none =>
      have none : e.kindOf? key = none := by rw [← claim?_kind, claims]; rfl
      simp [claims, none, ih]
    | some claim =>
      have takes : e.kindOf? key = some claim.dependency.isDefault := by rw [← claim?_kind, claims]; rfl
      have id := claim?_id claims
      by_cases same : claim.dependency.isDefault = kind <;>
        simp [claims, takes, same, id, ih, List.filterMap_cons]

end Element

structure Aggregates (root : Element) (imports : Imports) (conflicts : List ImportConflict) : Prop where
  listed : ∀ key, key ∈ imports.listed.map Dependency.identity ↔
    ∃ e, root.Reaches e ∧ key ∈ e.dependencies.entries.map Dependency.identity
  packages : Dict.Sorted imports
  bindings : ∀ entry ∈ imports, entry.2 ≠ [] ∧ (entry.2.map ImportBinding.name).Pairwise (· < ·)
  once : (imports.listed.map Dependency.identity).Pairwise Identity.Before
  /-- The kind is that of the first element that takes the component. -/
  kind : ∀ d ∈ imports.listed, root.visit.findSome? (·.kindOf? d.identity) = some d.isDefault
  disputed : ∀ key, key ∈ conflicts.map ImportConflict.identity ↔ root.TakesBothWays key
  ordered : (conflicts.map ImportConflict.identity).Pairwise Identity.Before
  kept : ∀ c ∈ conflicts, ⟨c.component, c.package, c.keptDefault⟩ ∈ imports.listed
  /-- The first element that takes the component, and those that take the other kind. -/
  nodeIds : ∀ c ∈ conflicts, ∃ first,
    root.visit.find? (·.kindOf? c.identity |>.isSome) = some first ∧
    c.nodeIds = first.id.toList ++
      (root.visit.filter (·.kindOf? c.identity = some (!c.keptDefault))).filterMap (·.id)

theorem conflict_nodeIds {root : Element} {key : Identity} {c : ImportConflict}
    (found : conflict? root.claims key = some c) :
    ∃ first, root.visit.find? (·.kindOf? key |>.isSome) = some first ∧
      c.nodeIds = first.id.toList ++
        (root.visit.filter (·.kindOf? key = some (!c.keptDefault))).filterMap (·.id) := by
  obtain ⟨first, rest, claimed, kept⟩ := conflict?_kept found
  obtain ⟨e, firstElement, id⟩ := Element.first_claimant claimed
  -- The first claim is not of the other kind, so it may stand among those that are asked for it.
  have others : rest.filter (·.dependency.isDefault != first.dependency.isDefault) =
      (claimsOf key root.claims).filter (·.dependency.isDefault = !c.keptDefault) := by
    rw [claimed, ← kept, List.filter_cons_of_neg (by simp)]
    refine List.filter_congr fun other _ => ?_
    cases other.dependency.isDefault <;> cases first.dependency.isDefault <;> rfl
  refine ⟨e, firstElement, ?_⟩
  rw [conflict?_nodeIds found, disputants, claimed]
  simp only [others]
  rw [Element.claimsOf_claims, ← Element.ids_of_kind, ← id]
  cases hasId : first.id <;> simp [hasId]

/-- The imports of a tree list exactly what its elements take from packages, in order, each component
once and with the kind of the first element that takes it; the conflicts are exactly the components
taken with both kinds. -/
theorem imports_aggregate (root : Element) : Aggregates root root.imports root.importConflicts := by
  have conflict {c : ImportConflict} (member : c ∈ root.importConflicts) :
      conflict? root.claims c.identity = some c := by
    obtain ⟨key, _, found⟩ := List.mem_filterMap.1 member
    rwa [conflict?_identity found]
  refine ⟨fun key => ?_, importsOf_sorted _, fun entry member => ?_, ?_, fun d member => ?_,
    fun key => ?_, ?_, fun c member => ?_, fun c member => conflict_nodeIds (conflict member)⟩
  · rw [Element.imports, listed_identities, mem_identities, Element.mem_claims_identity]
  · exact ⟨importsOf_ne_nil member, importsOf_names_ascend member⟩
  · rw [Element.imports, listed_identities]
    exact identities_before _
  · rw [← Element.firstDependency?_kind, mem_listed.1 member]
    rfl
  · rw [Element.importConflicts, mem_conflictsOf]
    exact forall_congr' fun _ => Element.mem_claims_kind
  · rw [Element.importConflicts, conflictsOf_identities]
    exact (identities_before _).filter _
  · exact mem_listed.2 (conflict?_firstDependency (conflict member))

end DesignMarkup
