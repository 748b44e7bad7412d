import DesignMarkup.Proofs.Command.Actions
import DesignMarkup.Proofs.Finding.Resolution
import DesignMarkup.Proofs.Lists
import DesignMarkup.Storage.Workspace
/-!
Commands that fail. A run whose action fails leaves the report of the failure and nothing else, where
changes are made as asked for. What an action has written stays where its report cannot be told.
-/
namespace DesignMarkup

namespace Report

theorem told?_isSome (r : Report SystemPath) :
    r.told?.isSome = true ↔ ∀ path ∈ r.paths, path.text?.isSome = true := by
  cases r with
  | transform r =>
    cases input : r.input.text? <;> simp [told?, mapPaths, TransformReport.mapPaths, paths, input]
  | render r =>
    rw [paths, List.forall_mem_cons, ← option_mapM_isSome]
    cases input : r.input.text? <;> cases output : r.outputPath.mapM SystemPath.text? <;>
      simp [told?, mapPaths, RenderReport.mapPaths, input, output]
  | sandbox r =>
    rw [paths, List.forall_mem_cons, List.forall_mem_append, ← option_mapM_isSome,
      ← mapM_isSome]
    cases input : r.input.text? <;> cases output : r.outputPath.mapM SystemPath.text? <;>
      cases written : r.written.mapM SystemPath.text? <;>
      simp [told?, mapPaths, ExportReport.mapPaths, input, output, written]
  | failure notice => simp [told?, mapPaths, paths]

end Report

namespace Command

/-- JSON is asked for, and a path in the report is no text. -/
def InputOptions.Refuses (o : InputOptions) (r : Report SystemPath) : Prop :=
  o.format = .json ∧ ∃ path ∈ r.paths, path.text? = none

/-- A text is written to the output file, if one is asked for, or else given to be shown. -/
def InputOptions.Delivers (o : InputOptions) :
    Except Failure String → List Note → Except Failure String → Prop
  | .error f, notes, told => notes = [] ∧ told = .error f
  | .ok text, notes, told =>
    notes.map Note.change = o.output.toList.map (.write · text) ∧
      (Written notes → told = .ok (o.output.elim (text ++ "\n") fun _ => ""))

def Ends (around : Surroundings) (o : InputOptions) (r : Report SystemPath) (code : Nat)
    (notes : List Note) (outcome : Outcome) : Prop :=
  ∃ text, delivery around o r = .ok text ∧
    notes.map Note.change = o.output.toList.map (.write · text) ∧
    outcome = { exitCode := code, output := o.output.elim (text ++ "\n") fun _ => "" }

section
variable {o : InputOptions} {r : Report SystemPath}

theorem InputOptions.Refuses.given (refuses : o.Refuses r) {v : Invocation}
    (named : ∀ path ∈ r.paths, v.Names path) : ∃ path ∈ v.paths, path.text? = none := by
  obtain ⟨-, path, reported, nameless⟩ := refuses
  by_contra texts
  have text : path.text?.isSome = true := (named path reported).text fun given member =>
    Option.isSome_iff_ne_none.2 fun none => texts ⟨given, member, none⟩
  rw [nameless] at text
  cases text

theorem told?_eq_none : r.told? = none ↔ ∃ path ∈ r.paths, path.text? = none := by
  rw [← Option.not_isSome_iff_eq_none, r.told?_isSome]
  simp

theorem delivery_refused (around : Surroundings) (refuses : o.Refuses r) :
    delivery around o r = .error untold := by
  rw [delivery, refuses.1, if_neg (by simp), reportText, told?_eq_none.2 refuses.2]
  rfl

theorem delivery_ok (around : Surroundings) (told : ¬ o.Refuses r) :
    ∃ text, delivery around o r = .ok text := by
  unfold delivery
  split
  · exact ⟨_, rfl⟩
  · cases format : o.format with
    | pretty => exact ⟨_, rfl⟩
    | json =>
      obtain ⟨plain, same⟩ := Option.ne_none_iff_exists'.1 (mt told?_eq_none.1 (told ⟨format, ·⟩))
      exact ⟨plain.encode.compact, by rw [reportText, same]; rfl⟩

end

section
variable {σ : Type} [Storage (StateM σ)]

theorem follows_deliver (around : Surroundings) (o : InputOptions) (r : Report SystemPath) :
    Follows (deliver around o r : Task (Journaled (StateM σ)) String) (deliver around o r)
      (o.Delivers (delivery around o r)) := by
  unfold deliver
  refine except_bind (fun text tells => ?_) fun f fails => ?_
  · rw [tells]
    unfold InputOptions.Delivers
    cases o.output with
    | none => exact follows_pure _ ⟨rfl, fun _ => rfl⟩
    | some path =>
      refine (follows_writeText path text).map fun notes r noted => ?_
      subst noted
      cases r with
      | error e => exact ⟨rfl, fun written => absurd List.mem_cons_self (written path text)⟩
      | ok => exact ⟨rfl, fun _ => rfl⟩
  · rw [fails]
    exact ⟨rfl, rfl⟩

def Invocation.journal (around : Surroundings) (v : Invocation) (s : σ) : (Outcome × List Note) × σ :=
  ((v.run around : Journaled (StateM σ) Outcome).run []).run s

theorem tracks_deliverFailure (around : Surroundings) (o : InputOptions) (f : Failure) :
    Tracks (deliverFailure around o f : Journaled (StateM σ) Outcome) (deliverFailure around o f)
      fun notes outcome => Written notes → Ends around o (.failure f.notice) 2 notes outcome := by
  unfold deliverFailure
  let Rest (told : Except Failure String) (notes : List Note) (outcome : Outcome) : Prop :=
    notes = [] ∧ ∀ output, told = .ok output → outcome = { exitCode := 2, output }
  refine Tracks.bind (N := Rest) (follows_deliver around o (.failure f.notice)) ?_ ?_
  · intro _ told _
    cases told with
    | ok output => exact tracks_pure _ ⟨rfl, fun _ same => by rw [Except.ok.inj same]⟩
    | error fault => exact tracks_pure _ ⟨rfl, nofun⟩
  · rintro told notes _ outcome delivered ⟨rfl, result⟩ written
    -- The report of a failure has no path in it that could be no text.
    obtain ⟨text, tells⟩ := delivery_ok around (o := o) (r := .failure f.notice)
      fun refuses => nomatch refuses.2
    rw [List.append_nil] at written ⊢
    rw [tells] at delivered
    exact ⟨text, tells, delivered.1, result _ (delivered.2 written)⟩

def afterAction {m : Type → Type} [Monad m] [Storage m] (around : Surroundings) (o : InputOptions) :
    Except Failure (Report SystemPath × List Finding) → m Outcome
  | .error f => deliverFailure around o f
  | .ok (r, findings) => do
    match ← (deliver around o r).run with
    | .ok output => return { exitCode := findingsCode findings, output }
    | .error f => deliverFailure around o f

theorem run_eq {m : Type → Type} [Monad m] [LawfulMonad m] [Storage m] (around : Surroundings)
    (v : Invocation) :
    (v.run around : m Outcome) = (runAction around v).run >>= afterAction around v.options := by
  unfold Invocation.run
  dsimp only
  rw [ExceptT.run_bind, bind_assoc]
  refine bind_congr fun done => ?_
  cases done with
  | error f => exact pure_bind _ _
  | ok done =>
    obtain ⟨r, findings⟩ := done
    refine (bind_assoc _ _ _).trans (bind_congr fun told => ?_)
    cases told <;> exact pure_bind _ _

theorem tracks_afterAction (around : Surroundings) (o : InputOptions)
    (done : Except Failure (Report SystemPath × List Finding)) :
    Tracks (afterAction around o done : Journaled (StateM σ) Outcome) (afterAction around o done)
      fun notes outcome => Written notes →
        match done with
        | .error f => Ends around o (.failure f.notice) 2 notes outcome
        | .ok (r, findings) =>
          (o.Refuses r → Ends around o (.failure untold.notice) 2 notes outcome) ∧
          (¬ o.Refuses r → Ends around o r (findingsCode findings) notes outcome) := by
  cases done with
  | error f => exact tracks_deliverFailure around o f
  | ok done =>
    obtain ⟨r, findings⟩ := done
    let Rest (told : Except Failure String) (notes : List Note) (outcome : Outcome) : Prop :=
      match told with
      | .ok output => notes = [] ∧ outcome = { exitCode := findingsCode findings, output }
      | .error f => Written notes → Ends around o (.failure f.notice) 2 notes outcome
    refine Tracks.bind (N := Rest) (follows_deliver around o r) ?_ ?_
    · intro _ told _
      cases told with
      | ok output => exact tracks_pure _ ⟨rfl, rfl⟩
      | error f => exact tracks_deliverFailure around o f
    · intro told notes more outcome delivered rest written
      obtain ⟨first, second⟩ := written.of_append
      constructor
      · intro refuses
        rw [delivery_refused around refuses] at delivered
        obtain ⟨rfl, rfl⟩ := delivered
        exact rest second
      · intro tells
        obtain ⟨text, same⟩ := delivery_ok around tells
        rw [same] at delivered
        obtain ⟨changes, shown⟩ := delivered
        rw [shown first] at rest
        obtain ⟨rfl, ended⟩ := rest
        rw [List.append_nil]
        exact ⟨text, same, changes, ended⟩

theorem run_journal (around : Surroundings) (v : Invocation) (s : σ) :
    let o := v.options
    let acted := ((runAction around v : Task (StateM σ) _).run.run s).1
    let ended := (v.run around : StateM σ Outcome).run s
    ∃ own report, v.journal around s = ((ended.1, own ++ report), ended.2) ∧
      Careful (fun done => done.2 = done.1.findings ∧ ∀ path ∈ done.1.paths, v.Names path) own acted ∧
      (¬ v.action.AsksFiles → own = []) ∧
      (Written report →
        match acted with
        | .error f => Ends around o (.failure f.notice) 2 report ended.1
        | .ok (r, findings) =>
          (o.Refuses r → Ends around o (.failure untold.notice) 2 report ended.1) ∧
          (¬ o.Refuses r → Ends around o r (findingsCode findings) report ended.1)) := by
  intro o acted ended
  obtain ⟨own, action, careful⟩ := runAction_careful around v [] s
  obtain ⟨report, rest, told⟩ := tracks_afterAction around v.options acted own
    ((runAction around v : Task (StateM σ) _).run.run s).2
  have plain : ended = (afterAction around v.options acted : StateM σ Outcome).run
      ((runAction around v : Task (StateM σ) _).run.run s).2 := by
    unfold ended
    rw [run_eq, StateT.run_bind]
    rfl
  have quiet : ¬ v.action.AsksFiles → own = [] := by
    intro idle
    obtain ⟨_, again, rfl⟩ := quiet_runAction around idle [] s
    rw [action] at again
    exact congrArg (·.1.2) again
  refine ⟨own, report, ?_, careful, quiet, by rw [plain]; exact told⟩
  rw [plain, Invocation.journal, run_eq, StateT.run_bind, StateT.run_bind, action, List.nil_append]
  exact rest

/-- A run in which all files are written as asked for. If the action fails, it has asked for none, or a
folder was refused; only the report of the failure follows, and the exit code is 2. If it is done, its
report follows, and the exit code is 1 if this tells of an error and else 0. But where JSON is asked for
and a path in the report is no text, the report of this failure follows, with the exit code 2, and what
the action has written stays; a path that the invocation gives is no text then. -/
theorem failed_commands_leave_report (around : Surroundings) (v : Invocation) (s : σ)
    (written : Written (v.journal around s).1.2) :
    let outcome := (v.journal around s).1.1
    (v.run around : StateM σ Outcome).run s = (outcome, (v.journal around s).2) ∧
    ∃ own report, (v.journal around s).1.2 = own ++ report ∧
    (own = [] ∨ v.action.AsksFiles) ∧
    match ((runAction around v : Task (StateM σ) _).run.run s).1 with
    | .error f =>
      (own = [] ∨ ∃ path, ⟨.folders path, false⟩ ∈ own) ∧
      Ends around v.options (.failure f.notice) 2 report outcome
    | .ok (r, _) =>
      (v.options.Refuses r → (∃ path ∈ v.paths, path.text? = none) ∧
        Ends around v.options (.failure untold.notice) 2 report outcome) ∧
      (¬ v.options.Refuses r →
        Ends around v.options r (if ∃ f ∈ r.findings, f.severity = .error then 1 else 0) report
          outcome) := by
  obtain ⟨own, report, journal, careful, quiet, told⟩ := run_journal around v s
  rw [journal] at written ⊢
  obtain ⟨first, second⟩ := written.of_append
  have told := told second
  refine ⟨rfl, own, report, rfl, or_iff_not_imp_right.2 quiet, ?_⟩
  cases acted : ((runAction around v : Task (StateM σ) _).run.run s).1 with
  | error f =>
    rw [acted] at careful told
    exact ⟨careful.imp_right first.folder_refused, told⟩
  | ok done =>
    obtain ⟨r, findings⟩ := done
    rw [acted] at careful told
    obtain ⟨reported, named⟩ : findings = r.findings ∧ ∀ path ∈ r.paths, v.Names path := careful
    have code : findingsCode findings = if ∃ f ∈ r.findings, f.severity = .error then 1 else 0 := by
      rw [reported, findingsCode]
      simp only [Finding.hasErrors_iff]
    refine ⟨fun refuses => ⟨refuses.given named, told.1 refuses⟩, fun tells => ?_⟩
    rw [← code]
    exact told.2 tells

/-- A component must not start with a small letter. -/
def misnamedRender : Invocation where
  verbose := false
  configPath := none
  options := ⟨"a.json", {}, .json, some "report.json"⟩
  action := .render "app" (some "app.jsx")

theorem misnamed_render_reported : ∃ f text,
    Written (misnamedRender.journal ⟨none, false⟩ ({} : Workspace)).1.2 ∧
    checkComponentName "app" = .error f ∧ reportText .json (.failure f.notice) = .ok text ∧
    (misnamedRender.journal ⟨none, false⟩ ({} : Workspace)).1.1.exitCode = 2 ∧
    (misnamedRender.journal ⟨none, false⟩ ({} : Workspace)).1.2.map Note.change =
      [.write "report.json" text] := by
  obtain ⟨f, failed⟩ : ∃ f, checkComponentName "app" = .error f := ⟨_, rfl⟩
  have marks : (misnamedRender.journal ⟨none, false⟩ ({} : Workspace)).1.2.map Note.made = [true] :=
    rfl
  have made (change : Change) :
      ⟨change, false⟩ ∉ (misnamedRender.journal ⟨none, false⟩ ({} : Workspace)).1.2 := by
    intro member
    have mark : false ∈ [true] := marks ▸ List.mem_map_of_mem member
    cases List.mem_singleton.1 mark
  have written : Written (misnamedRender.journal ⟨none, false⟩ ({} : Workspace)).1.2 :=
    fun path text => made (.write path text)
  have acted : ((runAction ⟨none, false⟩ misnamedRender : Task (StateM Workspace) _).run.run
      ({} : Workspace)).1 = .error f := by
    rw [← Except.error.inj failed]
    rfl
  obtain ⟨-, own, report, notes, -, left⟩ :=
    failed_commands_leave_report ⟨none, false⟩ misnamedRender ({} : Workspace) written
  rw [acted] at left
  obtain ⟨before, text, told, changes, ended⟩ := left
  have quiet : own = [] := before.resolve_right fun ⟨path, refused⟩ =>
    made (.folders path) (by rw [notes]; exact List.mem_append_left report refused)
  rw [quiet, List.nil_append] at notes
  rw [notes] at written ⊢
  exact ⟨f, text, written, failed, told, by rw [ended], changes⟩

theorem journal_refused {around : Surroundings} {v : Invocation} {s s₁ : σ} {notes : List Note}
    {r : Report SystemPath} {findings : List Finding}
    (acted : ((runAction around v : Task (Journaled (StateM σ)) _).run.run []).run s =
      ((.ok (r, findings), notes), s₁))
    (refuses : v.options.Refuses r) (shown : v.options.output = none) :
    ∃ output, v.journal around s = (({ exitCode := 2, output }, notes), s₁) := by
  obtain ⟨text, told⟩ := delivery_ok around (o := v.options) (r := .failure untold.notice)
    fun refuses => nomatch refuses.2
  refine ⟨text ++ "\n", ?_⟩
  have first : ((deliver around v.options r :
      Task (Journaled (StateM σ)) String).run.run notes).run s₁ = ((.error untold, notes), s₁) := by
    unfold deliver
    rw [delivery_refused around refuses]
    rfl
  have second : ((deliver around v.options (.failure untold.notice) :
      Task (Journaled (StateM σ)) String).run.run notes).run s₁ =
      ((.ok (text ++ "\n"), notes), s₁) := by
    unfold deliver
    rw [told, shown]
    rfl
  rw [Invocation.journal, run_eq, StateT.run_bind, StateT.run_bind, acted]
  change ((_ >>= _ : Journaled (StateM σ) Outcome).run notes).run s₁ = _
  rw [StateT.run_bind, StateT.run_bind, first]
  change ((deliverFailure around v.options untold :
    Journaled (StateM σ) Outcome).run notes).run s₁ = _
  unfold deliverFailure
  rw [StateT.run_bind, StateT.run_bind, second]
  rfl

end

structure Shelf where
  files : List (SystemPath × String)

instance : Storage (StateM Shelf) where
  readText path := do
    match (← get).files.lookup path with
    | some text => return .ok text
    | none => return .error "No such file or directory (os error 2)"
  isFile path := do return ((← get).files.lookup path).isSome
  writeText path text := do
    modify fun s => ⟨(path, text) :: s.files⟩
    return .ok ()
  createFolders _ := return .ok ()

/-- The last byte before the point is a letter in another encoding. -/
def latinPath : SystemPath := ⟨[0x63, 0x61, 0x66, 0xe9, 0x2e, 0x6a, 0x73, 0x6f, 0x6e]⟩

def label : Layer where
  id := "1:1"
  kind := "TEXT"
  characters := some "Hi"

def labelText : String := "\x7b\"id\":\"1:1\",\"type\":\"TEXT\",\"characters\":\"Hi\"\x7d"

def labelShelf : Shelf := ⟨[(latinPath, labelText)]⟩

def latinRender : Invocation where
  verbose := false
  configPath := none
  options := ⟨latinPath, {}, .json, none⟩
  action := .render "App" (some "App.jsx")

theorem unprintable_path_leaves_module :
    let run := latinRender.journal ⟨none, false⟩ labelShelf
    latinPath.text? = none ∧
    (Storage.readText latinPath : StateM Shelf _).run labelShelf = (.ok labelText, labelShelf) ∧
    Made run.1.2 ∧ run.1.1.exitCode = 2 ∧
    ∃ source, run.1.2.map Note.change = [.write "App.jsx" source] ∧
      run.2.files.lookup (.ofText "App.jsx") = some source := by
  have silent : (transform {} label).findings = [] := by decide +kernel
  have done : transformDocument {} label = .ok (transform {} label) := by
    rw [transformDocument_eq {} .lenient label, silent]
    exact congrArg (fun fs => Except.ok { transform {} label with findings := fs }) silent.symm
  have loaded : (loadConfig none none : Task (StateM Shelf) Config).run.run labelShelf =
      (.ok {}, labelShelf) := rfl
  have known : DocumentFormat.ofPath latinPath = .ok .json := by rfl
  have found : (Storage.readText latinPath : StateM Shelf _).run labelShelf =
      (.ok labelText, labelShelf) := rfl
  have parsed : Layer.parse .json labelText = .ok label := by cbv
  have prepared : (prepare ⟨none, false⟩ latinRender : Task (StateM Shelf) Prepared).run.run
      labelShelf = (.ok ⟨{}, transform {} label⟩, labelShelf) :=
    prepare_ok loaded (loadLayer_ok known found parsed) rfl done
  obtain ⟨tree, frozen⟩ : ∃ tree, (transform {} label).tree.freeze = .ok tree := ⟨_, rfl⟩
  have wrote (source : String) :
      (Storage.writeText (.ofText "App.jsx") source : StateM Shelf _).run labelShelf =
        (.ok (), ⟨(.ofText "App.jsx", source) :: labelShelf.files⟩) := rfl
  have named : checkComponentName "App" = .ok () := rfl
  have acted := render_writes named prepared frozen rfl (wrote _)
  have nameless : latinPath.text? = none := by rfl
  obtain ⟨output, journal⟩ := journal_refused acted ⟨rfl, latinPath, List.mem_cons_self, nameless⟩ rfl
  dsimp only
  rw [journal]
  refine ⟨nameless, found, ?_, rfl, _, rfl, ?_⟩
  · intro note member
    rw [List.mem_singleton.1 member]
  · rw [List.lookup_cons, beq_self_eq_true]

end Command
end DesignMarkup
