import DesignMarkup.Json.Shape
import DesignMarkup.Text.Basic
import DesignMarkup.Url.Basic
/-!
What can go wrong in a whole command, and how it is reported: a category, a message and advice.
-/
namespace DesignMarkup

inductive Failure where
  | io (detail : String)
  /-- A JSON document that does not parse or is no layer tree. -/
  | input (detail : String)
  | yaml (detail : String)
  | address (fault : Url.Fault)
  | config (message : String)
  | invalidTree (message : String)
  /-- A finding names layers that the tree does not have exactly once. -/
  | unresolved (finding : String) (missing : List String)
  | sandbox (message : String)
deriving DecidableEq, Repr

inductive FailureCategory where
  | config
  | io
  | input
  | tree
  | sandbox
deriving DecidableEq, Repr

instance : Keyword FailureCategory :=
  ⟨[("config", .config), ("io", .io), ("input", .input), ("tree", .tree), ("sandbox", .sandbox)]⟩

structure FailureNotice where
  category : FailureCategory
  message : String
  advice : Option String
deriving DecidableEq, Repr

namespace Failure

def unresolvedText (finding : String) (missing : List String) : String :=
  "Finding '" ++ finding ++ "' references unresolved node ids: " ++ ", ".intercalate missing

def message : Failure → String
  | io detail => "IO error: " ++ detail
  | input detail => "Serialization error: " ++ detail
  | yaml detail => "YAML error: " ++ detail
  | address fault => "Invalid URL: " ++ fault.message
  | config text => "Configuration error: " ++ text
  | invalidTree text => "Invalid tree: " ++ text
  | unresolved finding missing => unresolvedText finding missing
  | sandbox text => "Sandbox export error: " ++ text

def configAdvice (text : String) : String :=
  let lower := Text.asciiLower text
  if Text.mentions lower "transform mode" then "Use one of: jsx+scss, jsx+tailwind, jsx+emotion."
  else if Text.mentions lower "component mapping" then
    "Each [[components]] entry needs non-empty component, package and export fields."
  else if Text.mentions lower "unsupported input extension" then
    "Use a .json, .yaml or .yml design tree file."
  else "Check flags/paths and the config file (--config)."

def sandboxAdvice (text : String) : String :=
  if Text.mentions (Text.asciiLower text) "template" then
    "Use a supported sandbox template (e.g., create-react-app, parcel, static)."
  else "Check the sandbox file map and the output path."

def inputAdvice : String :=
  "Check that the input is a design node tree in JSON form (id, name, type, children)."

def yamlAdvice : String := "Check YAML indentation and that the document is a single node tree."

def addressAdvice : String :=
  "Asset references must be absolute URLs (e.g., https://cdn.example.com/a.png)."

def treeAdvice : String :=
  "The transformed tree broke an IR invariant; re-run with --verbose and report the input."

def unresolvedAdvice : String :=
  "A transformation pass produced a finding for a node id that is missing from the tree or " ++
    "shared by several nodes; use boundary = \"lenient\" to drop it."

def notice : Failure → FailureNotice
  | io detail => ⟨.io, detail, some "Check file paths/permissions."⟩
  | input detail => ⟨.input, detail, some inputAdvice⟩
  | yaml detail => ⟨.input, detail, some yamlAdvice⟩
  | address fault => ⟨.sandbox, fault.message, some addressAdvice⟩
  | config text => ⟨.config, text, some (configAdvice text)⟩
  | invalidTree text => ⟨.tree, text, some treeAdvice⟩
  | unresolved finding missing =>
    ⟨.tree, unresolvedText finding missing, some unresolvedAdvice⟩
  | sandbox text => ⟨.sandbox, text, some (sandboxAdvice text)⟩

end Failure

open Json Decode Shape

def FailureNotice.decode : Decoder FailureNotice :=
  Shape.decode "ErrorPayload" <|
    mk <$> required "category" Keyword.decode <*> required "message" string <*>
      optionalLast "remediation" string

def FailureNotice.encode (n : FailureNotice) : Json :=
  .object ([("category", Keyword.encode n.category), ("message", .string n.message)] ++
    entry? "remediation" (n.advice.map .string))

end DesignMarkup
