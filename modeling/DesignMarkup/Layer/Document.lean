import DesignMarkup.Failure
import DesignMarkup.Json.Reader
import DesignMarkup.Layer.Decode
import DesignMarkup.Storage
import DesignMarkup.Yaml.Reader
/-!
Documents with a layer tree, in JSON or YAML. A wrapper with the tree under `document` is taken
off once.
-/
namespace DesignMarkup

inductive DocumentFormat where
  | json
  | yaml
deriving DecidableEq, Repr

def DocumentFormat.ofPath (path : SystemPath) : Except Failure DocumentFormat :=
  let extension := Text.asciiLower ((path.extension?.bind SystemPath.text?).getD "")
  if extension = "json" then .ok .json
  else if extension = "yaml" ∨ extension = "yml" then .ok .yaml
  else .error (.config ("Unsupported input extension '" ++ extension ++ "' for " ++ path.shown))

namespace Layer

def unwrap (v : Json) : Json := (v.get? "document").getD v

def ofJson (v : Json) : Except Failure Layer :=
  match decode .direct (unwrap v) with
  | .ok l => .ok l
  | .error e => .error (.input e.message)

def parse (format : DocumentFormat) (text : String) : Except Failure Layer :=
  match format with
  | .json =>
    match Json.read text with
    | .ok v => ofJson v
    | .error e => .error (.input e.message)
  | .yaml =>
    match Yaml.read text with
    | .ok v => ofJson v
    | .error fault => .error (.yaml fault.message)

end Layer
end DesignMarkup
