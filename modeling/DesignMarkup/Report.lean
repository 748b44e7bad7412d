import DesignMarkup.Emission
import DesignMarkup.Sandbox.Project
import DesignMarkup.Storage
/-!
Reports on finished commands, as JSON and as text for a terminal. A command gives a report with paths
of the system; only one whose paths are text is told as JSON.
-/
namespace DesignMarkup

def reportVersion : String := "0.1.0"

structure TransformReport (Path : Type := String) where
  input : Path
  result : Transformed

structure RenderReport (Path : Type := String) where
  input : Path
  mode : TransformMode
  source : String
  outputPath : Option Path
  findings : List Finding

structure ExportReport (Path : Type := String) where
  input : Path
  mode : TransformMode
  template : Option SandboxTemplate
  fileCount : Nat
  outputPath : Option Path
  /-- The files that were written out. -/
  written : List Path
  /-- Left out if they were written to a file. -/
  params : Option SandboxParams
  findings : List Finding

inductive Report (Path : Type := String) where
  | transform (r : TransformReport Path)
  | render (r : RenderReport Path)
  | sandbox (r : ExportReport Path)
  | failure (notice : FailureNotice)

section
variable {m : Type → Type} [Monad m] {P Q : Type} (f : P → m Q)

def TransformReport.mapPaths (r : TransformReport P) : m (TransformReport Q) := do
  return ⟨← f r.input, r.result⟩

def RenderReport.mapPaths (r : RenderReport P) : m (RenderReport Q) := do
  let input ← f r.input
  let outputPath ← r.outputPath.mapM f
  return { input, mode := r.mode, source := r.source, outputPath, findings := r.findings }

def ExportReport.mapPaths (r : ExportReport P) : m (ExportReport Q) := do
  let input ← f r.input
  let outputPath ← r.outputPath.mapM f
  let written ← r.written.mapM f
  return {
    input, mode := r.mode, template := r.template, fileCount := r.fileCount, outputPath, written
    params := r.params, findings := r.findings }

def Report.mapPaths : Report P → m (Report Q)
  | transform r => return transform (← r.mapPaths f)
  | render r => return render (← r.mapPaths f)
  | sandbox r => return sandbox (← r.mapPaths f)
  | failure notice => return failure notice

end

/-- With its paths as text, which they need not be. -/
def Report.told? (r : Report SystemPath) : Option Report := r.mapPaths SystemPath.text?

def Report.shown (r : Report SystemPath) : Report := Id.run (r.mapPaths (pure ·.shown))

open Json

def encodeCounts (fs : List Finding) : Json :=
  .object [("info", whole (Finding.countOf .info fs)),
    ("warning", whole (Finding.countOf .warning fs)),
    ("error", whole (Finding.countOf .error fs))]

def reportHead (kind input : String) (mode : TransformMode) : List (String × Json) :=
  [("mode", .string kind), ("version", .string reportVersion), ("input", .string input),
    ("setting", mode.encodeSetting)]

def TransformReport.encode (r : TransformReport) : Json :=
  let t := r.result
  .object (reportHead "transform" r.input t.mode ++
    [("nodeCount", whole t.tree.count), ("counts", encodeCounts t.findings),
      ("tree", t.tree.encode), ("imports", t.imports.encode),
      ("findings", Finding.encodeAll t.findings)])

def RenderReport.encode (r : RenderReport) : Json :=
  .object (reportHead "render" r.input r.mode ++
    [("counts", encodeCounts r.findings), ("source", .string r.source)] ++
    entry? "outputPath" (r.outputPath.map .string) ++
    [("findings", Finding.encodeAll r.findings)])

def ExportReport.encode (r : ExportReport) : Json :=
  .object (reportHead "export" r.input r.mode ++
    entry? "template" (r.template.map Keyword.encode) ++ [("fileCount", whole r.fileCount)] ++
    entry? "outputPath" (r.outputPath.map .string) ++
    (if r.written.isEmpty then [] else [("written", Json.strings r.written)]) ++
    entry? "params" (r.params.map SandboxParams.encode) ++
    [("findings", Finding.encodeAll r.findings)])

def Report.encode : Report → Json
  | transform r => r.encode
  | render r => r.encode
  | sandbox r => r.encode
  | failure notice =>
    .object [("mode", .string "error"), ("version", .string reportVersion),
      ("error", notice.encode)]

inductive Ink where
  | red
  | green
  | yellow
  | blue
  | cyan
deriving DecidableEq, Repr

def Ink.code : Ink → String
  | red => "31"
  | green => "32"
  | yellow => "33"
  | blue => "34"
  | cyan => "36"

def Ink.paint (ink : Ink) (colored : Bool) (text : String) : String :=
  if colored then "\x1b[" ++ ink.code ++ "m" ++ text ++ "\x1b[0m" else text

def Severity.ink : Severity → Ink
  | info => .cyan
  | warning => .yellow
  | error => .red

def padTo (width : Nat) (text : String) : String :=
  text ++ String.ofList (List.replicate (width - text.length) ' ')

def textLines (lines : List String) : String := String.join (lines.map (· ++ "\n"))

def Finding.line (colored : Bool) (f : Finding) : String :=
  "- " ++ f.severity.ink.paint colored ("[" ++ Keyword.text f.severity ++ "]") ++ " " ++ f.title ++
    " (" ++ ", ".intercalate f.nodeIds ++ "): " ++ f.message

def findingLines (colored : Bool) (fs : List Finding) : List String :=
  let count (severity : Severity) : String := toString (Finding.countOf severity fs)
  if fs.isEmpty then []
  else
    ("Findings: " ++ count .error ++ " error(s), " ++ count .warning ++ " warning(s), " ++
      count .info ++ " info") :: fs.map (Finding.line colored)

def importLines (imports : Imports) : List String :=
  if imports.isEmpty then []
  else
    "Imports:" :: List.map (fun (package, bindings) =>
      "- " ++ padTo 24 package ++ " " ++ ", ".intercalate (bindings.map (·.name))) imports

def TransformReport.text (colored : Bool) (r : TransformReport) : String :=
  let t := r.result
  textLines
    ([Ink.cyan.paint colored "[TRANSFORM]" ++ " " ++ r.input ++ " (" ++ Keyword.text t.mode ++
        ", " ++
        toString t.tree.count ++ " nodes)",
      "Root: <" ++ t.tree.tag ++ "> " ++ t.tree.name] ++ importLines t.imports ++
      findingLines colored t.findings)

def RenderReport.text (colored : Bool) (r : RenderReport) : String :=
  textLines
    ([Ink.green.paint colored "[RENDER]" ++ " " ++ r.input ++ " (" ++ Keyword.text r.mode ++ ")"] ++
      (r.outputPath.map ("Written to " ++ ·)).toList ++ [""]) ++
    r.source ++ textLines (findingLines colored r.findings)

def ExportReport.text (colored : Bool) (r : ExportReport) : String :=
  let template := (r.template.map Keyword.text).getD "default"
  let files := if r.written.isEmpty then [] else "Files:" :: r.written.map ("- " ++ ·)
  textLines
    ([Ink.blue.paint colored "[EXPORT]" ++ " " ++ r.input ++ " (" ++ toString r.fileCount ++
        " files, template " ++ template ++ ")"] ++
      (r.outputPath.map ("Params: " ++ ·)).toList ++ files ++ findingLines colored r.findings)

def Report.text (colored : Bool) : Report → String
  | transform r => r.text colored
  | render r => r.text colored
  | sandbox r => r.text colored
  | failure notice =>
    textLines ([Ink.red.paint colored "[ERROR]" ++ " " ++ notice.message] ++
      (notice.advice.map ("Hint: " ++ ·)).toList)

end DesignMarkup
