import DesignMarkup.Proofs.Command.Journal
import DesignMarkup.Proofs.Command.Preparation
import DesignMarkup.Proofs.Storage
/-!
The actions of commands, with a journal. Whatever can go wrong in an action but for the files themselves
goes wrong before it changes any; one that is asked for no file changes none. Its report names no paths
but those of the invocation and the files in its folder.
-/
namespace DesignMarkup

namespace Report
variable {Path : Type}

def findings : Report Path → List Finding
  | transform r => r.result.findings
  | render r => r.findings
  | sandbox r => r.findings
  | failure _ => []

def paths : Report Path → List Path
  | transform r => [r.input]
  | render r => r.input :: r.outputPath.toList
  | sandbox r => r.input :: (r.outputPath.toList ++ r.written)
  | failure _ => []

end Report

theorem SandboxProject.checked_of_build {p : SandboxProject} {source : String} {imports : Imports}
    {tree : Element} {params : SandboxParams} (built : p.build source imports tree = .ok params) :
    params.check = .ok () := by
  unfold build at built
  dsimp only at built
  cases checked : (p.params source imports tree).check with
  | error f =>
    rw [checked] at built
    exact nomatch built
  | ok =>
    rw [checked] at built
    obtain rfl := Except.ok.inj built
    exact checked

namespace Command

def Action.out : Action → Option SystemPath
  | .transform => none
  | .render _ out => out
  | .sandbox _ _ out _ => out

def Action.folder : Action → Option SystemPath
  | .transform => none
  | .render _ _ => none
  | .sandbox _ _ _ dir => dir

def Action.AsksFiles (action : Action) : Prop := action.out.isSome ∨ action.folder.isSome

namespace Invocation
variable {v : Invocation}

def paths (v : Invocation) : List SystemPath :=
  v.options.input :: (v.action.out.toList ++ v.action.folder.toList)

/-- What a report may name. -/
inductive Names (v : Invocation) : SystemPath → Prop
  | input : Names v v.options.input
  | out {path : SystemPath} (asked : v.action.out = some path) : Names v path
  | file {dir : SystemPath} (asked : v.action.folder = some dir) (path : String) :
    Names v (dir.join path)

theorem Names.text {path : SystemPath} (named : v.Names path)
    (texts : ∀ given ∈ v.paths, given.text?.isSome = true) : path.text?.isSome = true := by
  obtain ⟨input, asked⟩ := List.forall_mem_cons.1 texts
  obtain ⟨outs, folders⟩ := List.forall_mem_append.1 asked
  cases named with
  | input => exact input
  | out asked => exact outs path (by simp [asked])
  | @file dir asked path =>
    obtain ⟨folder, text⟩ := Option.isSome_iff_exists.1 (folders dir (by simp [asked]))
    rw [SystemPath.eq_ofText_of_text? text, SystemPath.text?_join]
    rfl

theorem names_out {out : Option SystemPath} (asked : v.action.out = out) :
    ∀ path ∈ out.toList, v.Names path := by
  subst asked
  intro path member
  exact .out (Option.mem_toList.1 member)

end Invocation

section
variable {σ : Type} [Storage (StateM σ)]

theorem quiet_readConfig (path : SystemPath) :
    Quiet (readConfig path : Task (Journaled (StateM σ)) Config) (readConfig path) := by
  refine (quiet_readText path).seq fun text => ?_
  cases Config.ofToml text with
  | ok c => exact quiet_pure c
  | error f => exact quiet_throw _

theorem quiet_loadConfig (home explicit : Option SystemPath) :
    Quiet (loadConfig home explicit : Task (Journaled (StateM σ)) Config)
      (loadConfig home explicit) := by
  unfold loadConfig
  have last (c : Config) := quiet_except (σ := σ) (checkConfig explicit c)
  cases explicit with
  | some path => exact (quiet_readConfig path).seq last
  | none =>
    cases home with
    | none => exact (quiet_pure {}).seq last
    | some home =>
      refine (quiet_isFile (centralPath home)).seq fun found => ?_
      cases found with
      | true => exact (quiet_readConfig (centralPath home)).seq last
      | false => exact (quiet_pure {}).seq last

theorem quiet_loadLayer (path : SystemPath) :
    Quiet (loadLayer path : Task (Journaled (StateM σ)) Layer) (loadLayer path) := by
  refine (quiet_except (DocumentFormat.ofPath path)).seq fun format => ?_
  refine (quiet_readText path).seq fun text => ?_
  exact quiet_except (Layer.parse format text)

theorem quiet_prepare (around : Surroundings) (v : Invocation) :
    Quiet (prepare around v : Task (Journaled (StateM σ)) Prepared) (prepare around v) := by
  refine (quiet_loadConfig around.home v.configPath).seq fun c => ?_
  refine (quiet_loadLayer v.options.input).seq fun l => ?_
  refine (quiet_except (transformDocument _ l)).seq fun t => ?_
  exact quiet_pure _

theorem runTransform_careful (around : Surroundings) (v : Invocation) :
    Follows (runTransform around v : Task (Journaled (StateM σ)) (TransformReport SystemPath))
      (runTransform around v)
      (Careful fun r => ∀ path ∈ (Report.transform r).paths, v.Names path) := by
  unfold runTransform
  refine (quiet_prepare around v).careful fun p => careful_of_earnest ?_
  exact earnest_pure _ (List.forall_mem_singleton.2 .input)

theorem runRender_careful (around : Surroundings) {v : Invocation} {component : String}
    {out : Option SystemPath} (action : v.action = .render component out) :
    Follows (runRender around v component out : Task (Journaled (StateM σ)) (RenderReport SystemPath))
      (runRender around v component out)
      (Careful fun r => ∀ path ∈ (Report.render r).paths, v.Names path) := by
  have named : ∀ path ∈ v.options.input :: out.toList, v.Names path :=
    List.forall_mem_cons.2 ⟨.input, Invocation.names_out (by rw [action]; rfl)⟩
  unfold runRender
  refine (quiet_except (checkComponentName component)).careful fun _ => ?_
  refine (quiet_prepare around v).careful fun ⟨config, result⟩ => ?_
  refine (quiet_except result.tree.freeze).careful fun tree => ?_
  cases out with
  | none => exact careful_of_earnest (earnest_pure _ named)
  | some path =>
    refine careful_of_earnest ?_
    refine follows_earnest (earnest_of_noted (follows_writeText path _)) fun _ _ => ?_
    exact earnest_pure _ named

theorem earnest_writeParams {params : SandboxParams} (sound : params.check = .ok ())
    (path : SystemPath) :
    Follows (writeParams params path : Task (Journaled (StateM σ)) Unit) (writeParams params path)
      (Earnest fun _ => True) := by
  unfold writeParams
  rw [sound]
  change Follows (createFolders _ >>= _) (createFolders _ >>= _) _
  refine follows_earnest (earnest_of_noted (follows_createFolders _)) fun _ _ => ?_
  exact earnest_of_noted (follows_writeText path _)

theorem earnest_writeFile (dir : SystemPath) (path : String) (file : SandboxFile) :
    Follows (writeFile dir path file : Task (Journaled (StateM σ)) SystemPath)
      (writeFile dir path file) (Earnest fun target => target = dir.join path) := by
  refine follows_earnest (earnest_of_noted (follows_createFolders _)) fun _ _ => ?_
  refine follows_earnest (earnest_of_noted (follows_writeText _ _)) fun _ _ => ?_
  exact earnest_pure _ rfl

theorem earnest_writeProject {params : SandboxParams} (sound : params.check = .ok ())
    {v : Invocation} {dir : SystemPath} (folder : v.action.folder = some dir) :
    Follows (writeProject params dir : Task (Journaled (StateM σ)) (List SystemPath))
      (writeProject params dir) (Earnest fun written => ∀ path ∈ written, v.Names path) := by
  unfold writeProject
  rw [sound]
  change Follows (List.mapM _ _) (List.mapM _ _) _
  induction List.filter (fun entry => !entry.2.isBinary) params.files with
  | nil => exact earnest_pure [] (List.forall_mem_nil _)
  | cons entry rest ih =>
    rw [List.mapM_cons, List.mapM_cons]
    refine follows_earnest (earnest_writeFile dir entry.1 entry.2) fun first target => ?_
    refine follows_earnest ih fun others named => ?_
    exact earnest_pure _ (List.forall_mem_cons.2 ⟨target ▸ .file folder entry.1, named⟩)

theorem runExport_careful (around : Surroundings) {v : Invocation}
    {template : Option SandboxTemplate} {title : Option String} {out dir : Option SystemPath}
    (action : v.action = .sandbox template title out dir) :
    Follows
      (runExport around v template title out dir :
        Task (Journaled (StateM σ)) (ExportReport SystemPath))
      (runExport around v template title out dir)
      (Careful fun r => ∀ path ∈ (Report.sandbox r).paths, v.Names path) := by
  have outs : ∀ path ∈ out.toList, v.Names path := Invocation.names_out (by rw [action]; rfl)
  have folder : v.action.folder = dir := by rw [action]; rfl
  have named {written : List SystemPath} (inFolder : ∀ path ∈ written, v.Names path) :
      ∀ path ∈ v.options.input :: (out.toList ++ written), v.Names path :=
    List.forall_mem_cons.2 ⟨.input, List.forall_mem_append.2 ⟨outs, inFolder⟩⟩
  unfold runExport
  refine (quiet_prepare around v).careful fun ⟨config, result⟩ => ?_
  refine (quiet_except result.tree.freeze).careful fun tree => ?_
  refine (quiet_except (SandboxProject.ofSettings config.mode config.sandbox)).careful
    fun settings => ?_
  refine except_bind (fun params built => ?_) fun _ _ => .inl rfl
  have sound := SandboxProject.checked_of_build built
  refine careful_of_earnest ?_
  cases out with
  | none =>
    cases dir with
    | none => exact earnest_pure _ (named (List.forall_mem_nil _))
    | some dir =>
      refine follows_earnest (earnest_writeProject sound folder) fun written inFolder => ?_
      exact earnest_pure _ (named inFolder)
  | some path =>
    refine follows_earnest (earnest_writeParams sound path) fun _ _ => ?_
    cases dir with
    | none => exact earnest_pure _ (named (List.forall_mem_nil _))
    | some dir =>
      refine follows_earnest (earnest_writeProject sound folder) fun written inFolder => ?_
      exact earnest_pure _ (named inFolder)

theorem runAction_careful (around : Surroundings) (v : Invocation) :
    Follows (runAction around v : Task (Journaled (StateM σ)) (Report SystemPath × List Finding))
      (runAction around v)
      (Careful fun done => done.2 = done.1.findings ∧ ∀ path ∈ done.1.paths, v.Names path) := by
  unfold runAction
  cases action : v.action with
  | transform => exact careful_map (runTransform_careful around v) fun _ named => ⟨rfl, named⟩
  | render component out =>
    exact careful_map (runRender_careful around action) fun _ named => ⟨rfl, named⟩
  | sandbox template title out dir =>
    exact careful_map (runExport_careful around action) fun _ named => ⟨rfl, named⟩

theorem quiet_runAction (around : Surroundings) {v : Invocation} (idle : ¬ v.action.AsksFiles) :
    Quiet (runAction around v : Task (Journaled (StateM σ)) (Report SystemPath × List Finding))
      (runAction around v) := by
  unfold runAction
  have prepared := quiet_prepare (σ := σ) around v
  cases action : v.action with
  | transform =>
    refine Quiet.seq ?_ fun r => quiet_pure _
    exact prepared.seq fun p => quiet_pure _
  | render component out =>
    obtain rfl : out = none := by
      simpa [action, Action.AsksFiles, Action.out, Action.folder] using idle
    refine Quiet.seq ?_ fun r => quiet_pure _
    refine (quiet_except (checkComponentName component)).seq fun _ => ?_
    refine prepared.seq fun ⟨config, result⟩ => ?_
    exact (quiet_except result.tree.freeze).seq fun tree => quiet_pure _
  | sandbox template title out dir =>
    obtain ⟨rfl, rfl⟩ : out = none ∧ dir = none := by
      simpa [action, Action.AsksFiles, Action.out, Action.folder] using idle
    refine Quiet.seq ?_ fun r => quiet_pure _
    refine prepared.seq fun ⟨config, result⟩ => ?_
    refine (quiet_except result.tree.freeze).seq fun tree => ?_
    refine (quiet_except (SandboxProject.ofSettings config.mode config.sandbox)).seq
      fun settings => ?_
    exact (quiet_except (SandboxProject.build _ _ _ _)).seq fun params => quiet_pure _

end

section
variable {σ α β : Type} {s s₁ s₂ : σ} {notes notes₁ : List Note}

theorem journaled_bind_ok {first : Task (Journaled (StateM σ)) α} {a : α}
    (done : (first.run.run notes).run s = ((.ok a, notes₁), s₁))
    (next : α → Task (Journaled (StateM σ)) β) :
    ((first >>= next).run.run notes).run s = ((next a).run.run notes₁).run s₁ := by
  rw [ExceptT.run_bind, StateT.run_bind, StateT.run_bind, done]
  rfl

variable [Storage (StateM σ)] {around : Surroundings} {v : Invocation}

theorem render_writes {component : String} {out : SystemPath} {p : Prepared} {tree : Frozen}
    (named : checkComponentName component = .ok ())
    (prepared : (prepare around v : Task (StateM σ) Prepared).run.run s = (.ok p, s₁))
    (frozen : p.result.tree.freeze = .ok tree)
    (action : v.action = .render component (some out)) :
    let module := Markup.plainModule p.result.imports component tree
    let findings := p.result.findings ++ module.findings
    (Storage.writeText out module.source : StateM σ _).run s₁ = (.ok (), s₂) →
    ((runAction around v : Task (Journaled (StateM σ)) _).run.run []).run s =
      ((.ok (.render ⟨v.options.input, p.result.mode, module.source, some out, findings⟩, findings),
        [⟨.write out module.source, true⟩]), s₂) := by
  intro module findings wrote
  obtain ⟨_, journaled, rfl⟩ := quiet_prepare around v [] s
  rw [prepared, List.nil_append] at journaled
  obtain ⟨_, noted, rfl⟩ := follows_writeText out module.source [] s₁
  rw [show (writeText out module.source : Task (StateM σ) Unit).run.run s₁ = (.ok (), s₂) from
    orIoFailure_ok wrote, List.nil_append] at noted
  have rendered : ((runRender around v component (some out) :
      Task (Journaled (StateM σ)) (RenderReport SystemPath)).run.run []).run s =
      ((.ok ⟨v.options.input, p.result.mode, module.source, some out, findings⟩,
        [⟨.write out module.source, true⟩]), s₂) := by
    unfold runRender
    rw [named]
    change (((prepare around v : Task (Journaled (StateM σ)) Prepared) >>= _).run.run []).run s = _
    rw [journaled_bind_ok journaled]
    dsimp only
    rw [frozen]
    change (((writeText out module.source : Task (Journaled (StateM σ)) Unit) >>= _).run.run _).run _ = _
    rw [journaled_bind_ok noted]
    rfl
  unfold runAction
  rw [action]
  exact journaled_bind_ok rendered _

end

end Command
end DesignMarkup
