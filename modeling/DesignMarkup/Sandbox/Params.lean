import DesignMarkup.Failure
import DesignMarkup.FilePath
import DesignMarkup.Json.Shape
import DesignMarkup.Layer.Encode
import DesignMarkup.Text.Basic
/-!
What an online sandbox is given: files by path, a title, a description and a template. Paths stay
inside the project; a binary file is an address to download from.
-/
namespace DesignMarkup

inductive SandboxTemplate where
  | dojo
  | angular
  | createReactApp
  | cxjs
  | docusaurus
  | parcel
  | preact
  | reason
  | plain
  | svelte
  | vue
deriving DecidableEq, Repr

namespace SandboxTemplate

instance : Keyword SandboxTemplate :=
  ⟨[("@dojo/cli-create-app", .dojo), ("angular-cli", .angular),
    ("create-react-app", .createReactApp), ("cxjs", .cxjs), ("docusaurus", .docusaurus),
    ("parcel", .parcel), ("preact-cli", .preact), ("reason", .reason), ("static", .plain),
    ("svelte", .svelte), ("vue-cli", .vue)]⟩

def ofText (text : String) : Except Failure SandboxTemplate :=
  match Keyword.ofText? (Text.trim text) with
  | some template => .ok template
  | none => .error (.sandbox ("unknown sandbox template '" ++ text ++ "'"))

end SandboxTemplate

structure SandboxFile where
  /-- The text of the file, or the address of a binary one. -/
  content : String
  isBinary : Bool
deriving DecidableEq, Repr

structure SandboxParams where
  files : Dict SandboxFile
  title : Option String := none
  description : Option String := none
  template : Option SandboxTemplate := none
deriving DecidableEq, Repr

inductive SandboxFault where
  | emptyPath
  | backslash (path : String)
  | outside (path : String)
  /-- A file with the extension of a binary asset that is not marked as one. -/
  | unmarked (path : String)
  | address (fault : Url.Fault)
  | notWeb (path url : String)
deriving DecidableEq, Repr

def SandboxFault.failure : SandboxFault → Failure
  | emptyPath => .sandbox "empty file path"
  | backslash path => .sandbox (path ++ " must use forward slashes")
  | outside path => .sandbox (path ++ " must be a relative path without '..'")
  | unmarked path => .sandbox (path ++ " is a binary asset but is not flagged isBinary")
  | address fault => .address fault
  | notWeb path url => .sandbox (path ++ " must point at an http(s) URL, got " ++ url)

def pathFault? (path : String) : Option SandboxFault :=
  if Text.isBlankText path then some .emptyPath
  else if path.toList.contains '\\' then some (.backslash path)
  else if (FilePath.components path).all (·.isNormal) then none
  else some (.outside path)

def binaryExtensions : List String :=
  ["png", "jpg", "jpeg", "gif", "webp", "avif", "ico", "bmp", "woff", "woff2", "ttf", "otf"]

def hasBinaryExtension (path : String) : Bool :=
  (FilePath.extension? path).any fun extension =>
    binaryExtensions.contains (Text.asciiLower extension)

namespace SandboxFile

def text (content : String) : SandboxFile := ⟨content, false⟩

def remote (url : String) : SandboxFile := ⟨url, true⟩

def contentFault? (path : String) (file : SandboxFile) : Option SandboxFault :=
  if file.isBinary then
    match Url.parse file.content with
    | .error fault => some (.address fault)
    | .ok url => if url.isWeb then none else some (.notWeb path url.toText)
  else if hasBinaryExtension path then some (.unmarked path)
  else none

def fault? (path : String) (file : SandboxFile) : Option SandboxFault :=
  (pathFault? path).or (file.contentFault? path)

end SandboxFile

namespace SandboxParams

def fault? (p : SandboxParams) : Option SandboxFault :=
  p.files.findSome? fun (path, file) => file.fault? path

def check (p : SandboxParams) : Except Failure Unit :=
  match p.fault? with
  | none => .ok ()
  | some fault => .error fault.failure

end SandboxParams

open Json Decode Shape

def SandboxFile.decode : Decoder SandboxFile :=
  Shape.decode "SandboxFile" <| mk <$> required "content" string <*> required "isBinary" bool

def SandboxFile.encode (f : SandboxFile) : Json :=
  .object [("content", .string f.content), ("isBinary", .bool f.isBinary)]

def SandboxParams.decode : Decoder SandboxParams :=
  Shape.decode "SandboxParams" <|
    mk <$> required "files" (dict SandboxFile.decode) <*> optionalLast "title" string <*>
      optionalLast "description" string <*> optionalLast "template" Keyword.decode

def SandboxParams.encode (p : SandboxParams) : Json :=
  .object ([("files", .object (p.files.mapValues SandboxFile.encode))] ++
    entry? "title" (p.title.map .string) ++ entry? "description" (p.description.map .string) ++
    entry? "template" (p.template.map Keyword.encode))

end DesignMarkup
