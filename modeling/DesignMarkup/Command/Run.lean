import DesignMarkup.Command.Arguments
import DesignMarkup.Layer.Document
import DesignMarkup.Markup.Module
import DesignMarkup.Report
/-!
Running a command: the configuration and the design are read, the design is transformed, and what is
asked for is made and written. A failure becomes a report in the place of the result. The exit code
is 2 after a failure, 1 after findings of errors and 0 else.
-/
namespace DesignMarkup.Command
variable {m : Type → Type} [Monad m] [Storage m]

structure Surroundings where
  /-- The folder with the central configuration. -/
  home : Option SystemPath
  /-- The output is read at a terminal. -/
  terminal : Bool

structure Outcome where
  exitCode : Nat
  output : String := ""
  errors : String := ""
deriving DecidableEq, Repr

abbrev Task (m : Type → Type) := ExceptT Failure m

def orIoFailure {α : Type} (action : m (Except String α)) : Task m α := ExceptT.mk do
  match ← action with
  | .ok a => return .ok a
  | .error text => return .error (.io text)

def readText (path : SystemPath) : Task m String := orIoFailure (Storage.readText path)

def writeText (path : SystemPath) (text : String) : Task m Unit :=
  orIoFailure (Storage.writeText path text)

def isFile (path : SystemPath) : Task m Bool := ExceptT.lift (Storage.isFile path)

def createFolders (path : SystemPath) : Task m Unit := orIoFailure (Storage.createFolders path)

def centralPath (home : SystemPath) : SystemPath :=
  ((home.join ".config").join "d2c").join "config.toml"

/-- The configuration of a file. What is wrong with its text is told with the path. -/
def readConfig (path : SystemPath) : Task m Config := do
  let text ← readText path
  match Config.ofToml text with
  | .ok c => return c
  | .error f => throw (.config ("Failed to read config " ++ path.shown ++ ": " ++ f.message))

def checkConfig (explicit : Option SystemPath) (c : Config) : Except Failure Config :=
  match c.check with
  | .ok () => .ok c
  | .error f =>
    let place := (explicit.map fun path => " (" ++ path.shown ++ ")").getD ""
    .error (.config ("Invalid config" ++ place ++ ": " ++ f.message))

/-- The file that is named, or else the central one, or else what goes without a file. -/
def loadConfig (home explicit : Option SystemPath) : Task m Config := do
  let c ← match explicit, home.map centralPath with
    | some path, _ => readConfig path
    | none, some path => if ← isFile path then readConfig path else pure {}
    | none, none => pure {}
  checkConfig explicit c

def loadLayer (path : SystemPath) : Task m Layer := do
  let format ← DocumentFormat.ofPath path
  let text ← readText path
  Layer.parse format text

structure Prepared where
  config : Config
  result : Transformed

def prepare (around : Surroundings) (v : Invocation) : Task m Prepared := do
  let config := (← loadConfig around.home v.configPath).override v.options.overrides
  let layer ← loadLayer v.options.input
  return ⟨config, ← transformDocument config layer⟩

def isComponentName (name : String) : Bool :=
  match name.toList with
  | [] => false
  | c :: rest => c.isUpper && rest.all fun d => d.isAlphanum || d == '_'

def checkComponentName (name : String) : Except Failure Unit :=
  if isComponentName name then .ok ()
  else
    .error (.config ("'" ++ name ++ "' is not a valid React component name " ++
      "(expected an identifier starting with an uppercase letter)"))

def runTransform (around : Surroundings) (v : Invocation) :
    Task m (TransformReport SystemPath) := do
  return ⟨v.options.input, (← prepare around v).result⟩

def runRender (around : Surroundings) (v : Invocation) (component : String)
    (out : Option SystemPath) : Task m (RenderReport SystemPath) := do
  checkComponentName component
  let { result, .. } ← prepare around v
  let module := Markup.plainModule result.imports component (← result.tree.freeze)
  if let some path := out then writeText path module.source
  return {
    input := v.options.input
    mode := result.mode
    source := module.source
    outputPath := out
    findings := result.findings ++ module.findings }

/-- Writes the parameters to a file, whose folders are made. They are checked again before. -/
def writeParams (params : SandboxParams) (path : SystemPath) : Task m Unit := do
  params.check
  createFolders path.folderOf
  writeText path params.encode.pretty

def writeFile (dir : SystemPath) (path : String) (file : SandboxFile) : Task m SystemPath := do
  let target := dir.join path
  createFolders target.folderOf
  writeText target file.content
  return target

/-- Binary files stay where they are. The parameters are checked again before. -/
def writeProject (params : SandboxParams) (dir : SystemPath) : Task m (List SystemPath) := do
  params.check
  (List.filter (fun entry => !entry.2.isBinary) params.files).mapM fun (path, file) =>
    writeFile dir path file

def runExport (around : Surroundings) (v : Invocation) (template : Option SandboxTemplate)
    (title : Option String) (out dir : Option SystemPath) : Task m (ExportReport SystemPath) := do
  let { config, result } ← prepare around v
  let tree ← result.tree.freeze
  let module := Markup.plainModule result.imports "App" tree
  let settings ← SandboxProject.ofSettings config.mode config.sandbox
  let project := { settings with
    template := template.getD settings.template
    title := title.or settings.title }
  let params ← project.build module.source result.imports tree.element
  if let some path := out then writeParams params path
  let written ← match dir with
    | some dir => writeProject params dir
    | none => pure []
  return {
    input := v.options.input
    mode := result.mode
    template := params.template
    fileCount := params.files.length
    outputPath := out
    written
    params := if out.isNone then some params else none
    findings := result.findings ++ module.findings }

/-- The report with the findings that decide on the exit code. -/
def runAction (around : Surroundings) (v : Invocation) :
    Task m (Report SystemPath × List Finding) := do
  match v.action with
  | .transform =>
    let r ← runTransform around v
    return (.transform r, r.result.findings)
  | .render component out =>
    let r ← runRender around v component out
    return (.render r, r.findings)
  | .sandbox template title out dir =>
    let r ← runExport around v template title out dir
    return (.sandbox r, r.findings)

def noReport : Json := .object [("mode", .string "error")]

def untold : Failure := .input "path contains invalid UTF-8 characters"

/-- Files and pipes get JSON in either format. -/
def reportText (format : OutputFormat) (r : Report SystemPath) : Except Failure String :=
  match format with
  | .json => r.told?.elim (.error untold) (.ok ·.encode.compact)
  | .pretty => .ok (r.told?.elim noReport.compact (·.encode.pretty))

def delivery (around : Surroundings) (o : InputOptions) (r : Report SystemPath) :
    Except Failure String :=
  if o.output.isNone ∧ o.format = .pretty ∧ around.terminal then .ok (r.shown.text true)
  else reportText o.format r

def deliver (around : Surroundings) (o : InputOptions) (r : Report SystemPath) : Task m String := do
  let text ← delivery around o r
  match o.output with
  | none => return text ++ "\n"
  | some path =>
    writeText path text
    return ""

/-- A failure whose report cannot be written is told among the errors; as JSON it is shown, too. -/
def deliverFailure (around : Surroundings) (o : InputOptions) (f : Failure) : m Outcome := do
  let r := Report.failure f.notice
  match ← (deliver around o r).run with
  | .ok output => return { exitCode := 2, output }
  | .error fault =>
    return {
      exitCode := 2
      errors := "Failed to write error output: " ++ fault.notice.message ++ "\n"
      output :=
        if o.format = .json then ((reportText .json r).toOption.getD noReport.compact) ++ "\n" else "" }

def findingsCode (fs : List Finding) : Nat := if Finding.hasErrors fs then 1 else 0

def Invocation.run (around : Surroundings) (v : Invocation) : m Outcome := do
  let task : Task m Outcome := do
    let (report, findings) ← runAction around v
    let output ← deliver around v.options report
    return { exitCode := findingsCode findings, output }
  match ← task.run with
  | .ok outcome => return outcome
  | .error f => deliverFailure around v.options f

end DesignMarkup.Command
