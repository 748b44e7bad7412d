import DesignMarkup.Proofs.Finding.Account
import DesignMarkup.Proofs.Layer.Soundness
/-!
The findings of a run at the boundary. Each names ids that emitted layers have, so with distinct ids
nothing is refused or dropped, and what strict resolution refuses is a finding with a repeated id.
-/
namespace DesignMarkup

namespace Finding

theorem hasErrors_iff {fs : List Finding} : hasErrors fs = true ↔ ∃ f ∈ fs, f.severity = .error := by
  simp [hasErrors, countOf, List.length_pos_iff_exists_mem, List.mem_filter]

theorem resolves_iff {ids : List String} {f : Finding} (named : f.nodeIds ≠ []) :
    f.resolves ids = true ↔ ∀ id ∈ f.nodeIds, ids.count id = 1 := by
  have listed : f.nodeIds.isEmpty = false := by simpa using named
  simp [resolves, unresolved, listed]

section
variable {ids : List String} {fs gs : List Finding}

theorem resolveWith_ok (resolved : ∀ f ∈ fs, f.resolves ids = true) (mode : Boundary) :
    resolveWith ids mode fs = .ok fs := by
  cases mode with
  | strict =>
    have none : fs.find? (!resolves ids ·) = none := by simpa using resolved
    rw [resolveWith, none]
  | lenient => rw [resolveWith, List.filter_eq_self.2 resolved]

theorem resolveWith_strict_error :
    (∃ failure, resolveWith ids .strict fs = .error failure) ↔
      ∃ f ∈ fs, f.resolves ids = false := by
  unfold resolveWith
  cases refused : fs.find? (!resolves ids ·) with
  | none =>
    have resolved : ∀ f ∈ fs, f.resolves ids = true := by simpa using refused
    constructor
    · rintro ⟨failure, failed⟩
      exact nomatch failed
    · rintro ⟨f, member, unresolved⟩
      exact absurd (unresolved.symm.trans (resolved f member)) Bool.false_ne_true
  | some f =>
    have unresolved : f.resolves ids = false := by simpa using List.find?_some refused
    exact iff_of_true ⟨_, rfl⟩ ⟨f, List.mem_of_find?_eq_some refused, unresolved⟩

theorem of_resolveWith_ok {mode : Boundary} (passed : resolveWith ids mode fs = .ok gs) :
    gs = fs.filter (resolves ids) ∧ (mode = .strict → ∀ f ∈ fs, f.resolves ids = true) := by
  cases mode with
  | lenient => exact ⟨(Except.ok.inj passed).symm, nofun⟩
  | strict =>
    have resolved : ∀ f ∈ fs, f.resolves ids = true := by
      intro f member
      by_contra unresolved
      obtain ⟨failure, failed⟩ :=
        resolveWith_strict_error.2 ⟨f, member, eq_false_of_ne_true unresolved⟩
      exact nomatch failed.symm.trans passed
    rw [resolveWith_ok resolved] at passed
    exact ⟨by rw [List.filter_eq_self.2 resolved, Except.ok.inj passed], fun _ => resolved⟩

end

end Finding

theorem finding_located {c : Config} {root : Layer} {f : Finding}
    (member : f ∈ (transform c root).findings) :
    f.nodeIds ≠ [] ∧ ∀ id ∈ f.nodeIds, id ∈ root.emittedIds c := by
  rcases finding_origin member with ⟨l, emitted, own⟩ | ⟨key, disputed, warns⟩
  · rw [Layer.ownFindings_nodeIds own, List.forall_mem_singleton]
    constructor
    · exact List.cons_ne_nil _ _
    · exact Layer.id_mem_emittedIds emitted (Layer.mem_ownFindings.1 own).1
  · constructor
    · obtain ⟨claim, disputant, hasId⟩ := disputed.named
      obtain ⟨id, claimant⟩ := Option.ne_none_iff_exists'.1 hasId
      exact List.ne_nil_of_mem (warns.mem_nodeIds.2 ⟨claim, disputant, claimant⟩)
    · intro id named
      obtain ⟨claim, disputant, claimant⟩ := warns.mem_nodeIds.1 named
      exact Layer.claim_id_mem (mem_of_disputant disputant) claimant

theorem finding_resolves_iff {c : Config} {root : Layer} {f : Finding}
    (member : f ∈ (transform c root).findings) :
    f.resolves (root.emittedIds c) = true ↔ ∀ id ∈ f.nodeIds, (root.emittedIds c).count id = 1 :=
  Finding.resolves_iff (finding_located member).1

/-- What does not resolve is an id that several emitted layers have. -/
theorem finding_unresolved_iff {c : Config} {root : Layer} {f : Finding}
    (member : f ∈ (transform c root).findings) :
    f.resolves (root.emittedIds c) = false ↔ ∃ id ∈ f.nodeIds, 1 < (root.emittedIds c).count id := by
  have repeated : ∀ id ∈ f.nodeIds,
      1 < (root.emittedIds c).count id ↔ (root.emittedIds c).count id ≠ 1 := by
    intro id named
    have once := List.count_pos_iff.2 ((finding_located member).2 id named)
    omega
  rw [← Bool.not_eq_true, finding_resolves_iff member]
  push Not
  exact exists_congr fun id => and_congr_right fun named => (repeated id named).symm

theorem transform_boundary (c : Config) (boundary : Boundary) (root : Layer) :
    transform { c with boundary } root = transform c root := by
  have same : root.emit { c with boundary } none = root.emit c none := by
    refine Layer.emit_congr ?_ ?_ none root
    · rfl
    · rfl
  unfold transform
  rw [same]

theorem transformDocument_eq (c : Config) (boundary : Boundary) (root : Layer) :
    transformDocument { c with boundary } root =
      (Finding.resolveWith (root.emittedIds c) boundary (transform c root).findings).map
        fun findings => { transform c root with findings } := by
  have ids : (transform c root).tree.ids = root.emittedIds c := Layer.emit_ids c none root
  unfold transformDocument Finding.resolveAll
  dsimp only
  rw [transform_boundary, ids]
  cases Finding.resolveWith (root.emittedIds c) boundary (transform c root).findings <;> rfl

section
variable {c : Config} {root : Layer} {t : Transformed}

theorem resolved_of_done (done : transformDocument c root = .ok t) :
    Finding.resolveWith (root.emittedIds c) c.boundary (transform c root).findings =
      .ok t.findings := by
  have same : transformDocument c root =
      (Finding.resolveWith (root.emittedIds c) c.boundary (transform c root).findings).map
        fun findings => { transform c root with findings } := transformDocument_eq c c.boundary root
  rw [done] at same
  cases passed : Finding.resolveWith (root.emittedIds c) c.boundary (transform c root).findings with
  | error failure =>
    rw [passed] at same
    exact nomatch same
  | ok findings =>
    rw [passed] at same
    rw [Except.ok.inj same]

theorem passed_iff (done : transformDocument c root = .ok t) (f : Finding) :
    f ∈ t.findings ↔ f ∈ (transform c root).findings ∧
      ∀ id ∈ f.nodeIds, (root.emittedIds c).count id = 1 := by
  rw [(Finding.of_resolveWith_ok (resolved_of_done done)).1, List.mem_filter]
  exact and_congr_right finding_resolves_iff

theorem strict_passes (done : transformDocument c root = .ok t) (strict : c.boundary = .strict)
    {f : Finding} (member : f ∈ (transform c root).findings) : f ∈ t.findings := by
  have resolved := (Finding.of_resolveWith_ok (resolved_of_done done)).2 strict f member
  exact (passed_iff done f).2 ⟨member, (finding_resolves_iff member).1 resolved⟩

end

/-- With distinct ids the boundary passes every finding in its place, in both modes, and each id of a
finding is that of one element. Strict resolution fails only over a finding with a repeated id. -/
theorem boundary_passes_findings (c : Config) (root : Layer) :
    ((root.emittedIds c).Nodup →
      (∀ boundary, transformDocument { c with boundary } root = .ok (transform c root)) ∧
      ∀ f ∈ (transform c root).findings, ∀ id ∈ f.nodeIds,
        ((transform c root).tree.visit.filter (·.id = some id)).length = 1) ∧
    ((∃ failure, transformDocument { c with boundary := .strict } root = .error failure) ↔
      ∃ f ∈ (transform c root).findings, ∃ id ∈ f.nodeIds, 1 < (root.emittedIds c).count id) := by
  have ids : (transform c root).tree.ids = root.emittedIds c := Layer.emit_ids c none root
  constructor
  · intro distinct
    have once : ∀ f ∈ (transform c root).findings, ∀ id ∈ f.nodeIds,
        (root.emittedIds c).count id = 1 := by
      intro f member id named
      rw [distinct.count, if_pos ((finding_located member).2 id named)]
    constructor
    · intro boundary
      have resolved : ∀ f ∈ (transform c root).findings, f.resolves (root.emittedIds c) = true := by
        intro f member
        exact (finding_resolves_iff member).2 (once f member)
      rw [transformDocument_eq, Finding.resolveWith_ok resolved boundary]
      rfl
    · intro f member id named
      rw [← Element.count_ids, ids, once f member id named]
  · have refused : (∃ failure, transformDocument { c with boundary := .strict } root = .error failure) ↔
        ∃ failure, Finding.resolveWith (root.emittedIds c) .strict (transform c root).findings =
          .error failure := by
      rw [transformDocument_eq]
      cases Finding.resolveWith (root.emittedIds c) .strict (transform c root).findings <;>
        simp [Except.map]
    rw [refused, Finding.resolveWith_strict_error]
    exact exists_congr fun f => and_congr_right finding_unresolved_iff

theorem toolbar_boundary :
    ((toolbar "1:3").emittedIds toolbarConfig).Nodup ∧
    (∀ boundary, transformDocument { toolbarConfig with boundary } (toolbar "1:3") =
      .ok (transform toolbarConfig (toolbar "1:3"))) ∧
    ∃ failure, transformDocument { toolbarConfig with boundary := .strict } (toolbar "1:1") =
      .error failure := by
  have distinct : ((toolbar "1:3").emittedIds toolbarConfig).Nodup := by
    have ids : (toolbar "1:3").emittedIds toolbarConfig = ["0:1", "1:1", "1:2", "1:3"] := rfl
    rw [ids]
    decide
  have repeated : 1 < ((toolbar "1:1").emittedIds toolbarConfig).count "1:1" := by
    have ids : (toolbar "1:1").emittedIds toolbarConfig = ["0:1", "1:1", "1:2", "1:1"] := rfl
    rw [ids]
    decide
  have emitted : unplaced "1:1" ∈ (toolbar "1:1").emitted toolbarConfig := by
    have all : (toolbar "1:1").emitted toolbarConfig =
        [toolbar "1:1", placed "INSTANCE" "Chip" "1:1" [], placed "INSTANCE" "Badge" "1:2" [],
          unplaced "1:1"] := rfl
    rw [all]
    simp
  have own : .schemaViolation "1:1" "missing absoluteBoundingBox" ∈
      (unplaced "1:1").ownFindings toolbarConfig := by
    rw [Layer.placeholder_ownFindings toolbarConfig (by decide) rfl]
    exact List.mem_cons_self
  refine ⟨distinct, ((boundary_passes_findings toolbarConfig (toolbar "1:3")).1 distinct).1, ?_⟩
  exact (boundary_passes_findings toolbarConfig (toolbar "1:1")).2.2
    ⟨_, finding_of_own emitted own, "1:1", List.mem_cons_self, repeated⟩

end DesignMarkup
