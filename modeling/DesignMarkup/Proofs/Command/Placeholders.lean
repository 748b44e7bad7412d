import DesignMarkup.Proofs.Command.Preparation
import DesignMarkup.Proofs.Finding.Resolution
import DesignMarkup.Storage.Workspace
import Mathlib
/-!
Errors among the findings of a run are placeholders, one for each that a finding can name, and the
transform command ends with 1 over them. A placeholder without an id, or with the id of another
element where findings are dropped, leaves no trace.
-/
namespace DesignMarkup

theorem Layer.error_own_iff {c : Config} {l : Layer} {f : Finding} (own : f ∈ l.ownFindings c) :
    f.severity = .error ↔ l.defect?.isSome := by
  rcases (mem_ownFindings.1 own).2 with ⟨detail, defect, rfl⟩ | ⟨sound, _, _, rfl⟩
  · exact iff_of_true rfl (by rw [defect]; rfl)
  · exact iff_of_false nofun (by rw [sound]; nofun)

section
variable {c : Config} {root : Layer} {t : Transformed}

theorem placeholder_passes_iff (done : transformDocument c root = .ok t) {l : Layer}
    {detail : String} (emitted : l ∈ root.emitted c) (named : l.id ≠ "")
    (defect : l.defect? = some detail) :
    .schemaViolation l.id detail ∈ t.findings ↔ (root.emittedIds c).count l.id = 1 := by
  have own : .schemaViolation l.id detail ∈ l.ownFindings c := by
    rw [Layer.placeholder_ownFindings c named defect]
    exact List.mem_cons_self
  have ids : (Finding.schemaViolation l.id detail).nodeIds = [l.id] := rfl
  rw [passed_iff done, and_iff_right (finding_of_own emitted own), ids, List.forall_mem_singleton]

theorem errors_iff_placeholder (done : transformDocument c root = .ok t) :
    Finding.hasErrors t.findings = true ↔
      ∃ l ∈ root.emitted c, l.defect?.isSome ∧ l.id ≠ "" ∧ (root.emittedIds c).count l.id = 1 := by
  rw [Finding.hasErrors_iff]
  constructor
  · rintro ⟨f, member, error⟩
    obtain ⟨found, once⟩ := (passed_iff done f).1 member
    rcases finding_origin found with ⟨l, emitted, own⟩ | ⟨key, _, warns⟩
    · rw [Layer.ownFindings_nodeIds own, List.forall_mem_singleton] at once
      exact ⟨l, emitted, (Layer.error_own_iff own).1 error, (Layer.mem_ownFindings.1 own).1, once⟩
    · exact nomatch warns.severity.symm.trans error
  · rintro ⟨l, emitted, isDefect, named, once⟩
    obtain ⟨detail, defect⟩ := Option.isSome_iff_exists.1 isDefect
    exact ⟨_, (placeholder_passes_iff done emitted named defect).2 once, rfl⟩

end

namespace Command

section
variable {around : Surroundings} {v : Invocation} {w w₁ w₂ : Workspace}

theorem run_transform {p : Prepared} (action : v.action = .transform)
    (prepared : (prepare around v : Task (StateM Workspace) Prepared).run.run w = (.ok p, w₁)) :
    (v.run around : StateM Workspace Outcome).run w =
      match (deliver around v.options (.transform ⟨v.options.input, p.result⟩) :
        Task (StateM Workspace) String).run.run w₁ with
      | (.ok output, w₂) => ({ exitCode := findingsCode p.result.findings, output }, w₂)
      | (.error f, w₂) => (deliverFailure around v.options f : StateM Workspace Outcome).run w₂ := by
  have reported : (runAction around v : Task (StateM Workspace) _).run.run w =
      (.ok (.transform ⟨v.options.input, p.result⟩, p.result.findings), w₁) := by
    unfold runAction
    rw [action]
    simp only [runTransform, bind_assoc, pure_bind]
    rw [run_bind_ok prepared]
    rfl
  unfold Invocation.run
  rw [StateT.run_bind, run_bind_ok reported, ExceptT.run_bind, StateT.run_bind]
  cases (deliver around v.options (.transform ⟨v.options.input, p.result⟩) :
    Task (StateM Workspace) String).run.run w₁ with
  | mk delivered w₂ => cases delivered <;> rfl

theorem deliverFailure_exitCode (o : InputOptions) (f : Failure) :
    ((deliverFailure around o f : StateM Workspace Outcome).run w).1.exitCode = 2 := by
  unfold deliverFailure
  rw [StateT.run_bind]
  cases (deliver around o (.failure f.notice) : Task (StateM Workspace) String).run.run w with
  | mk delivered w₂ => cases delivered <;> rfl

theorem exitCode_of_transform {p : Prepared} (action : v.action = .transform)
    (prepared : (prepare around v : Task (StateM Workspace) Prepared).run.run w = (.ok p, w₁)) :
    ((v.run around : StateM Workspace Outcome).run w).1.exitCode =
      match ((deliver around v.options (.transform ⟨v.options.input, p.result⟩) :
        Task (StateM Workspace) String).run.run w₁).1 with
      | .ok _ => findingsCode p.result.findings
      | .error _ => 2 := by
  rw [run_transform action prepared]
  cases (deliver around v.options (.transform ⟨v.options.input, p.result⟩) :
    Task (StateM Workspace) String).run.run w₁ with
  | mk delivered w₂ =>
    cases delivered with
    | ok output => rfl
    | error f => exact deliverFailure_exitCode v.options f

end

/-- A placeholder with an id is among the findings as an error, and the transform command ends with 1,
if it can deliver its report. Where findings are dropped, no other element may have the id. -/
theorem placeholders_reported {c : Config} {root : Layer} {t : Transformed}
    (done : transformDocument c root = .ok t) {l : Layer} {detail : String}
    (emitted : l ∈ root.emitted c) (placeholder : l.form c = .placeholder detail)
    (named : l.id ≠ "") (alone : c.boundary = .lenient → (root.emittedIds c).count l.id = 1) :
    .schemaViolation l.id detail ∈ t.findings ∧ Finding.hasErrors t.findings = true ∧
    ∀ (around : Surroundings) (v : Invocation) (w w₁ : Workspace), v.action = .transform →
      (prepare around v : Task (StateM Workspace) Prepared).run.run w = (.ok ⟨c, t⟩, w₁) →
      ((v.run around : StateM Workspace Outcome).run w).1.exitCode =
        match ((deliver around v.options (.transform ⟨v.options.input, t⟩) :
          Task (StateM Workspace) String).run.run w₁).1 with
        | .ok _ => 1
        | .error _ => 2 := by
  have defect : l.defect? = some detail := Layer.form_placeholder_iff.1 placeholder
  have passed : .schemaViolation l.id detail ∈ t.findings := by
    cases mode : c.boundary with
    | strict =>
      refine strict_passes done mode (finding_of_own emitted ?_)
      rw [Layer.placeholder_ownFindings c named defect]
      exact List.mem_cons_self
    | lenient => exact (placeholder_passes_iff done emitted named defect).2 (alone mode)
  have errors : Finding.hasErrors t.findings = true := Finding.hasErrors_iff.2 ⟨_, passed, rfl⟩
  refine ⟨passed, errors, ?_⟩
  intro around v w w₁ action prepared
  rw [exitCode_of_transform action prepared, findingsCode, errors]
  rfl

def unplacedText (id : String) : String :=
  "\x7b\"id\":\"" ++ id ++ "\",\"type\":\"RECTANGLE\"\x7d"

def folderWith (text : String) : Workspace where
  files := [(⟨.above 0, ["a.json"]⟩, some text)]

def transformFile (output : Option SystemPath) : Invocation where
  verbose := false
  configPath := none
  options := ⟨"a.json", {}, .json, output⟩
  action := .transform

theorem prepare_unplaced {id : String} {t : Transformed} (output : Option SystemPath)
    (parsed : Layer.parse .json (unplacedText id) = .ok (unplaced id))
    (done : transformDocument {} (unplaced id) = .ok t) :
    (prepare ⟨none, false⟩ (transformFile output) : Task (StateM Workspace) Prepared).run.run
      (folderWith (unplacedText id)) = (.ok ⟨{}, t⟩, folderWith (unplacedText id)) := by
  have loaded : (loadConfig none none : Task (StateM Workspace) Config).run.run
      (folderWith (unplacedText id)) = (.ok {}, folderWith (unplacedText id)) := rfl
  have known : DocumentFormat.ofPath "a.json" = .ok .json := rfl
  have found : (Storage.readText "a.json" : StateM Workspace _).run (folderWith (unplacedText id)) =
      (.ok (unplacedText id), folderWith (unplacedText id)) := rfl
  have kept : ({} : Config).override (transformFile output).options.overrides = {} := rfl
  exact prepare_ok loaded (loadLayer_ok known found parsed) kept done

theorem unplaced_parsed : Layer.parse .json (unplacedText "1:1") = .ok (unplaced "1:1") := by cbv

theorem unplaced_transformed :
    transformDocument {} (unplaced "1:1") = .ok (transform {} (unplaced "1:1")) := by cbv

def exitCodeOf (output : Option SystemPath) (text : String) : Nat :=
  (((transformFile output).run ⟨none, false⟩ : StateM Workspace Outcome).run
    (folderWith text)).1.exitCode

theorem unplaced_reported :
    .schemaViolation "1:1" "missing absoluteBoundingBox" ∈ (transform {} (unplaced "1:1")).findings ∧
    exitCodeOf none (unplacedText "1:1") = 1 := by
  have emitted : unplaced "1:1" ∈ (unplaced "1:1").emitted {} := by
    rw [Layer.emitted_eq]
    exact List.mem_cons_self
  have placeholder : (unplaced "1:1").form {} = .placeholder "missing absoluteBoundingBox" := rfl
  have once : ((unplaced "1:1").emittedIds {}).count "1:1" = 1 := by
    have ids : (unplaced "1:1").emittedIds {} = ["1:1"] := rfl
    rw [ids]
    decide
  have reported := placeholders_reported unplaced_transformed emitted placeholder (by decide)
    (fun _ => once)
  exact ⟨reported.1, reported.2.2 ⟨none, false⟩ (transformFile none) _ _ rfl
    (prepare_unplaced none unplaced_parsed unplaced_transformed)⟩

def twins : Layer where
  id := "0:1"
  kind := "FRAME"
  bounds := some ⟨.ofInt 0, .ofInt 0, .ofInt 40, .ofInt 20⟩
  children := [unplaced "2:1", unplaced "2:1"]

def twinsJson : Json :=
  let twin := Json.object [("id", .string "2:1"), ("type", .string "RECTANGLE")]
  .object [("id", .string "0:1"), ("type", .string "FRAME"),
    ("absoluteBoundingBox",
      .object [("x", .int 0), ("y", .int 0), ("width", .int 40), ("height", .int 20)]),
    ("children", .array [twin, twin])]

theorem twins_emitted : twins.emitted {} = [twins, unplaced "2:1", unplaced "2:1"] := rfl

theorem twins_silent {t : Transformed} (done : transformDocument {} twins = .ok t) :
    Finding.hasErrors t.findings = false := by
  rw [← Bool.not_eq_true, errors_iff_placeholder done, Layer.emittedIds, twins_emitted]
  rintro ⟨l, emitted, isDefect, _, once⟩
  rcases List.mem_cons.1 emitted with rfl | below
  · exact absurd isDefect (by decide)
  · obtain rfl : l = unplaced "2:1" := by simpa using below
    exact absurd once (by decide)

/-- The first placeholder has no id to be told by. The findings about the other two are dropped, as
both would name the id that the two share. The last is told of, but not where the report should go. -/
theorem placeholders_unreported :
    (Layer.parse .json (unplacedText "") = .ok (unplaced "") ∧
      (unplaced "").form {} = .placeholder "missing absoluteBoundingBox" ∧
      (∀ boundary, ∃ t, transformDocument { boundary } (unplaced "") = .ok t ∧
        Finding.hasErrors t.findings = false) ∧
      exitCodeOf none (unplacedText "") = 0) ∧
    (Layer.ofJson twinsJson = .ok twins ∧ unplaced "2:1" ∈ twins.emitted {} ∧
      (unplaced "2:1").form {} = .placeholder "missing absoluteBoundingBox" ∧
      ∃ t, transformDocument {} twins = .ok t ∧ Finding.hasErrors t.findings = false) ∧
    exitCodeOf (some "out/a.json") (unplacedText "1:1") = 2 := by
  refine ⟨⟨?_, rfl, ?_, ?_⟩, ⟨rfl, ?_, rfl, ?_⟩, ?_⟩
  · cbv
  · intro boundary
    refine ⟨transform {} (unplaced ""), ?_, ?_⟩
    · cases boundary <;> cbv
    · cbv
  · have parsed : Layer.parse .json (unplacedText "") = .ok (unplaced "") := by cbv
    have done : transformDocument {} (unplaced "") = .ok (transform {} (unplaced "")) := by cbv
    have silent : findingsCode (transform {} (unplaced "")).findings = 0 := by cbv
    exact (exitCode_of_transform rfl (prepare_unplaced none parsed done)).trans silent
  · rw [twins_emitted]
    exact List.mem_cons_of_mem _ List.mem_cons_self
  · have done := transformDocument_eq {} .lenient twins
    exact ⟨_, done, twins_silent done⟩
  · exact exitCode_of_transform rfl
      (prepare_unplaced (some "out/a.json") unplaced_parsed unplaced_transformed)

end Command
end DesignMarkup
