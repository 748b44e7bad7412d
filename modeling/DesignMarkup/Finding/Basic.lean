import DesignMarkup.Import
import DesignMarkup.Json.Shape
import DesignMarkup.Style.Basic
/-!
Findings: what a run has to tell about elements, by their ids. A list of findings is in the order of
discovery.
-/
namespace DesignMarkup

inductive Severity where
  | info
  | warning
  | error
deriving DecidableEq, Repr

instance : Keyword Severity := ⟨[("info", .info), ("warning", .warning), ("error", .error)]⟩

inductive HookFailure where
  | unregistered
  | failed (message : String)
  | panicked
deriving DecidableEq, Repr

def HookFailure.message (hook : String) : HookFailure → String
  | unregistered => "hook '" ++ hook ++ "' is not registered"
  | failed text => "hook '" ++ hook ++ "' failed: " ++ text
  | panicked => "hook '" ++ hook ++ "' panicked"

structure Finding where
  name : String
  chineseName : Option String := none
  description : Option String := none
  severity : Severity
  title : String
  message : String
  nodeIds : List String
  docUrl : Option String := none
  imgUrl : Option String := none
  defaultVisible : Option Bool := none
  color : Option String := none
deriving DecidableEq, Repr

namespace Finding

def about (name : String) (severity : Severity) (id title message : String) : Finding :=
  { name, severity, title, message, nodeIds := [id] }

def withNode (f : Finding) (id : String) : Finding :=
  if id ∈ f.nodeIds then f else { f with nodeIds := f.nodeIds ++ [id] }

def withChineseName (f : Finding) (name : String) : Finding := { f with chineseName := some name }

def withDescription (f : Finding) (text : String) : Finding := { f with description := some text }

def withDocUrl (f : Finding) (url : String) : Finding := { f with docUrl := some url }

def withColor (f : Finding) (color : String) : Finding := { f with color := some color }

def schemaViolation (id detail : String) : Finding :=
  ((about "schemaViolation" .error id "Node could not be mapped"
    (detail ++ "; an empty placeholder was emitted instead")).withChineseName "结构异常").withColor
    "#f93920"

def styleAmbiguity (id : String) (c : BackgroundCollision) : Finding :=
  ((about "styleAmbiguity" .warning id "Conflicting background values"
    ("kept " ++ Keyword.text c.kept ++ ", discarded " ++ Keyword.text c.discarded ++
      " (" ++ c.value ++
      ")")).withChineseName "样式冲突").withColor "#fc8800"

/-- Nothing if no claimant has an id. -/
def dependencyConflict? (c : ImportConflict) : Option Finding :=
  match c.nodeIds with
  | [] => none
  | first :: rest =>
    let kind := if c.keptDefault then "default" else "named"
    let finding := about "dependencyConflict" .warning first "Conflicting import kinds"
      ("'" ++ c.component ++ "' from '" ++ c.package ++
        "' is imported both as default and named; keeping the " ++ kind ++ " import")
    some (rest.foldl withNode ((finding.withChineseName "依赖冲突").withColor "#fc8800"))

def hookFailure (id hook : String) (failure : HookFailure) : Finding :=
  ((about "hookFailure" .warning id "Custom template failed"
    (failure.message hook ++ "; default output was used")).withChineseName "模板异常").withColor
    "#fc8800"

def flattenedChildren (id : String) (dropped : Nat) : Finding :=
  ((about "flattenedChildren" .info id "Layer exported as image"
    (toString dropped ++ " child layer(s) are part of the image asset")).withChineseName
    "图层合并").withColor "#0064fa"

open Json Decode Shape

def decode : Decoder Finding :=
  Shape.decode "D2CInspect" <|
    mk <$> required "inspectName" string <*> optionalLast "inspectChineseName" string <*>
      optionalLast "inspectDescription" string <*> required "inspectType" Keyword.decode <*>
      required "inspectTitle" string <*> required "inspectMessage" string <*>
      required "nodeIds" (list string) <*> optionalLast "docURL" string <*>
      optionalLast "imgURL" string <*> optionalLast "defaultVisible" bool <*>
      optionalLast "color" string

def encode (f : Finding) : Json :=
  .object ([("inspectName", .string f.name)] ++
    entry? "inspectChineseName" (f.chineseName.map .string) ++
    entry? "inspectDescription" (f.description.map .string) ++
    [("inspectType", Keyword.encode f.severity), ("inspectTitle", .string f.title),
      ("inspectMessage", .string f.message), ("nodeIds", Json.strings f.nodeIds)] ++
    entry? "docURL" (f.docUrl.map .string) ++ entry? "imgURL" (f.imgUrl.map .string) ++
    entry? "defaultVisible" (f.defaultVisible.map .bool) ++
    entry? "color" (f.color.map .string))

def encodeAll (fs : List Finding) : Json := .array (fs.map encode)

def countOf (severity : Severity) (fs : List Finding) : Nat :=
  (fs.filter (·.severity = severity)).length

def hasErrors (fs : List Finding) : Bool := 0 < countOf .error fs

def byNode (fs : List Finding) : Dict (List Finding) :=
  (fs.flatMap fun f => f.nodeIds.map (·, f)).foldl
    (fun index (id, f) => index.insert id ((index.get? id).getD [] ++ [f])) []

end Finding
end DesignMarkup
