import DesignMarkup.Finding.Boundary
import DesignMarkup.Layer.Encode
import DesignMarkup.Text.Basic
import DesignMarkup.Toml.Document
import DesignMarkup.Toml.Name
/-!
Configuration of a run: the transform mode, the layers to keep, which components of the design are
imported, and what a sandbox is made of. It is read from TOML; overrides only ever switch something
on.
-/
namespace DesignMarkup

inductive TransformMode where
  | scss
  | tailwind
  | emotion
deriving DecidableEq, Repr

namespace TransformMode

instance : Keyword TransformMode :=
  ⟨[("jsx+scss", .scss), ("jsx+tailwind", .tailwind), ("jsx+emotion", .emotion)]⟩

def runtimePackages : TransformMode → List (String × String)
  | scss => [("sass", "^1.69.0")]
  | tailwind => [("tailwindcss", "^3.4.0")]
  | emotion => [("@emotion/react", "^11.11.0")]

/-- Blanks around the name and the case of its letters do not matter. -/
def ofText (text : String) : Except Failure TransformMode :=
  match Keyword.ofText? (Text.asciiLower (Text.trim text)) with
  | some mode => .ok mode
  | none =>
    .error (.config ("unknown transform mode '" ++ text ++
      "' (expected jsx+scss, jsx+tailwind or jsx+emotion)"))

def encodeSetting (mode : TransformMode) : Json := .object [("transformMode", Keyword.encode mode)]

end TransformMode

structure ComponentMapping where
  component : String
  package : String
  /-- The name in the package, if it is another one. -/
  exported : Option String
  isDefault : Bool
deriving DecidableEq, Repr

def ComponentMapping.exportName (m : ComponentMapping) : String := m.exported.getD m.component

structure SandboxSettings where
  title : Option String := none
  description : Option String := none
  template : Option String := none
  /-- Versions to pin packages to. -/
  versions : Dict String := []
deriving DecidableEq, Repr

structure Config where
  mode : TransformMode := .scss
  dropInvisible : Bool := true
  parallel : Bool := false
  boundary : Boundary := .lenient
  components : List ComponentMapping := []
  sandbox : SandboxSettings := {}
deriving DecidableEq, Repr

inductive MappingFault where
  | emptyComponent
  | emptyPackage (component : String)
  | emptyExport (component : String)
  | repeated (component : String)
deriving DecidableEq, Repr

def MappingFault.message : MappingFault → String
  | emptyComponent => "component mapping has an empty component name"
  | emptyPackage component => "component mapping '" ++ component ++ "' has an empty package"
  | emptyExport component => "component mapping '" ++ component ++ "' has an empty export"
  | repeated component => "component mapping '" ++ component ++ "' appears more than once"

/-- `seen` are the components of the mappings before. -/
def ComponentMapping.fault? (seen : List String) (m : ComponentMapping) : Option MappingFault :=
  if Text.isBlankText m.component then some .emptyComponent
  else if Text.isBlankText m.package then some (.emptyPackage m.component)
  else if m.exported.any Text.isBlankText then some (.emptyExport m.component)
  else if m.component ∈ seen then some (.repeated m.component)
  else none

def mappingFault? (seen : List String) : List ComponentMapping → Option MappingFault
  | [] => none
  | m :: rest => (m.fault? seen).or (mappingFault? (m.component :: seen) rest)

namespace Config

def check (c : Config) : Except Failure Unit :=
  match mappingFault? [] c.components with
  | none => .ok ()
  | some fault => .error (.config fault.message)

end Config

structure Overrides where
  mode : Option TransformMode := none
  keepInvisible : Bool := false
  parallel : Bool := false
  strict : Bool := false
deriving DecidableEq, Repr

def Config.override (c : Config) (o : Overrides) : Config :=
  { c with
    mode := o.mode.getD c.mode
    dropInvisible := c.dropInvisible && !o.keepInvisible
    parallel := c.parallel || o.parallel
    boundary := if o.strict then .strict else c.boundary }

open Json Decode Shape

def ComponentMapping.decode : Decoder ComponentMapping :=
  Shape.decode "ComponentMapping" <|
    mk <$> required "component" string <*> required "package" string <*>
      optionalLast "export" string <*> withDefault "default_module" false bool

def ComponentMapping.encode (m : ComponentMapping) : Json :=
  .object [("component", .string m.component), ("package", .string m.package),
    ("export", maybe .string m.exported), ("default_module", .bool m.isDefault)]

/-- Maps of a configuration file come in the order of the file. -/
def sortedDict {α : Type} (decode : Decoder α) : Decoder (Dict α) := fun o v =>
  (dict decode o v).map Dict.ofList

def SandboxSettings.decode : Decoder SandboxSettings :=
  Shape.decode "SandboxConfig" <|
    mk <$> optionalLast "title" string <*> optionalLast "description" string <*>
      optionalLast "template" string <*> withDefault "versions" [] (sortedDict string)

def SandboxSettings.encode (s : SandboxSettings) : Json :=
  .object [("title", maybe .string s.title), ("description", maybe .string s.description),
    ("template", maybe .string s.template), ("versions", .object (s.versions.mapValues .string))]

namespace Config

def decode : Decoder Config :=
  Shape.decode "Config" <|
    mk <$> withDefault "transform_mode" .scss Keyword.decode <*>
      withDefault "drop_invisible" true bool <*> withDefault "parallel" false bool <*>
      withDefault "boundary" .lenient Keyword.decode <*>
      withDefault "components" [] (list ComponentMapping.decode) <*>
      withDefault "sandbox" {} SandboxSettings.decode

def encode (c : Config) : Json :=
  .object [("transform_mode", Keyword.encode c.mode), ("drop_invisible", .bool c.dropInvisible),
    ("parallel", .bool c.parallel), ("boundary", Keyword.encode c.boundary),
    ("components", encodeList ComponentMapping.encode c.components),
    ("sandbox", c.sandbox.encode)]

def namedSettings : List (String × List String) :=
  [("transform_mode", (Keyword.names : List (String × TransformMode)).map Prod.fst),
    ("boundary", (Keyword.names : List (String × Boundary)).map Prod.fst)]

/-- Of two faults in the settings, the first in the order of the file is told. -/
def ofNode (node : Toml.Node) : Toml.Reading Config :=
  let (fields, fault?) := Toml.resolveNames namedSettings node.entries
  match decode .table (.object fields), fault? with
  | .ok c, none => .ok c
  | .ok _, some fault => .error fault
  | .error e, _ =>
    Toml.refuseAt ((node.spanAt? e.path).getD ⟨0, 0⟩) (e.reason.messageIn Decimal.pointLayout)

def ofToml (text : String) : Except Failure Config :=
  ((Toml.document text.toList).bind ofNode).mapError fun fault =>
    .config (fault.describe text.toList)

end Config
end DesignMarkup
