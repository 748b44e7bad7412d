import DesignMarkup.Storage
import DesignMarkup.Text.Basic
/-!
A storage held as a value: the files below a working folder, which relative paths start from. Of
what lies outside of it only a few folders and devices are there at first. All names in it are text.
-/
namespace DesignMarkup
open FilePath (Component)

inductive FileFault where
  | missing
  | exists_
  | notFolder
  | folder
  | noSpace
  | tooLong
  /-- The bytes of the file are no text. -/
  | noText
  | nulInPath
  /-- The bytes of the path are no text. -/
  | noName
deriving DecidableEq, Repr

def FileFault.message : FileFault → String
  | missing => "No such file or directory (os error 2)"
  | exists_ => "File exists (os error 17)"
  | notFolder => "Not a directory (os error 20)"
  | folder => "Is a directory (os error 21)"
  | noSpace => "No space left on device (os error 28)"
  | tooLong => "File name too long (os error 36)"
  | noText => "stream did not contain valid UTF-8"
  | nulInPath => "file name contained an unexpected NUL byte"
  | noName => "Invalid or incomplete multibyte or wide character (os error 84)"

/-- A folder that has no name in a path: one so many levels above the working folder, or the
outermost of all. -/
inductive Base where
  | above (levels : Nat)
  | outermost
deriving DecidableEq, Repr

structure Location where
  base : Base := .above 0
  names : List String
deriving DecidableEq, Repr

namespace Location

def working : Location := { names := [] }

def child (place : Location) (name : String) : Location :=
  { place with names := place.names ++ [name] }

/-- The outermost folder is its own parent. -/
def parent : Location → Location
  | ⟨.above n, []⟩ => ⟨.above (n + 1), []⟩
  | ⟨base, names⟩ => ⟨base, names.dropLast⟩

def contains (place inner : Location) : Bool :=
  place.base = inner.base && place.names.isPrefixOf inner.names

end Location

/-- Folders need not be listed if there are files in them. A file without content holds no text. -/
structure Workspace where
  files : List (Location × Option String) := []
  folders : List Location := []

inductive Kind where
  | file (content : Option String)
  | folder
  /-- Is empty, and stays so whatever is written. -/
  | nullDevice
  /-- Takes nothing. -/
  | fullDevice
  | missing
deriving DecidableEq, Repr

def systemKind : Location → Kind
  | ⟨_, []⟩ => .folder
  | ⟨.outermost, [name]⟩ =>
    if ["dev", "etc", "home", "proc", "tmp", "usr", "var"].contains name then .folder else .missing
  | ⟨.outermost, ["dev", "null"]⟩ => .nullDevice
  | ⟨.outermost, ["dev", "full"]⟩ => .fullDevice
  | _ => .missing

namespace Workspace

def kindAt (w : Workspace) (place : Location) : Kind :=
  match w.files.lookup place with
  | some content => .file content
  | none =>
    if w.folders.contains place || w.files.any (place.contains ·.1) then .folder
    else systemKind place

/-- In bytes, for a name and for a path with the byte that ends it. -/
def nameLimit : Nat := 255

def pathLimit : Nat := 4096

def steps (path : String) : List Component :=
  let step (name : String) : Component :=
    if name = "." then .current else FilePath.componentOf name
  let names := (Text.split path '/').filter (!·.isEmpty)
  (if Text.startsWith path "/" then [.root] else []) ++ names.map step

def checkPath (path : String) : Except FileFault Unit :=
  if path.toList.contains '\x00' then .error .nulInPath
  else if pathLimit ≤ Text.byteCount path.toList then .error .tooLong
  else .ok ()

def named (place : Location) (name : String) : Except FileFault Location :=
  if nameLimit < Text.byteCount name.toList then .error .tooLong else .ok (place.child name)

def follow (w : Workspace) : Location → List Component → Except FileFault Location
  | place, [] => .ok place
  | _, .root :: rest => follow w ⟨.outermost, []⟩ rest
  | place, .current :: rest => follow w place rest
  | place, .parent :: rest => follow w place.parent rest
  | place, .normal name :: rest => do
    let next ← named place name
    if rest.isEmpty then return next
    match w.kindAt next with
    | .folder => follow w next rest
    | .missing => throw .missing
    | _ => throw .notFolder

def locate (w : Workspace) (path : String) : Except FileFault Location := do
  checkPath path
  if path.isEmpty then throw .missing
  w.follow .working (steps path)

def read (w : Workspace) (path : String) : Except FileFault String := do
  let kind := w.kindAt (← w.locate path)
  if Text.endsWith path "/" && kind ≠ .folder && kind ≠ .missing then throw .notFolder
  match kind with
  | .file (some text) => return text
  | .file none => throw .noText
  | .folder => throw .folder
  | .nullDevice => return ""
  | .fullDevice => return ""
  | .missing => throw .missing

def put (w : Workspace) (place : Location) (text : String) : Workspace :=
  { w with
    files :=
      if (w.files.lookup place).isSome then
        w.files.map fun entry => if entry.1 = place then (place, some text) else entry
      else w.files ++ [(place, some text)] }

def write (w : Workspace) (path text : String) : Except FileFault Workspace := do
  let place ← w.locate path
  if Text.endsWith path "/" then throw .folder
  match w.kindAt place with
  | .folder => throw .folder
  | .nullDevice => return w
  | .fullDevice => if text.isEmpty then return w else throw .noSpace
  | _ => return w.put place text

def makeFolder (w : Workspace) (place : Location) : Workspace :=
  { w with folders := w.folders ++ [place] }

def makeFoldersFrom (w : Workspace) : Location → List Component → Except FileFault Workspace
  | _, [] => .ok w
  | _, .root :: rest => makeFoldersFrom w ⟨.outermost, []⟩ rest
  | place, .current :: rest => makeFoldersFrom w place rest
  | place, .parent :: rest => makeFoldersFrom w place.parent rest
  | place, .normal name :: rest => do
    let next ← named place name
    match w.kindAt next with
    | .folder => makeFoldersFrom w next rest
    | .missing => makeFoldersFrom (w.makeFolder next) next rest
    | _ => throw (if rest.isEmpty then .exists_ else .notFolder)

def makeFolders (w : Workspace) (path : String) : Except FileFault Workspace := do
  checkPath path
  w.makeFoldersFrom .working (steps path)

def isFile (w : Workspace) (path : String) : Bool :=
  match (w.locate path).map w.kindAt with
  | .ok (.file _) => true
  | _ => false

def changes (old w : Workspace) : List (String × String) :=
  w.files.filterMap fun (place, content) =>
    match content with
    | some text =>
      if place.base ≠ .above 0 ∨ old.files.lookup place = some content then none
      else some ("/".intercalate place.names, text)
    | none => none

end Workspace

def told {α : Type} : Except FileFault α → Except String α
  | .ok a => .ok a
  | .error fault => .error fault.message

def updating (change : Workspace → Except FileFault Workspace) :
    StateM Workspace (Except String Unit) :=
  fun w =>
    match change w with
    | .ok next => (.ok (), next)
    | .error fault => (.error fault.message, w)

def spelled (path : SystemPath) : Except FileFault String := path.text?.elim (.error .noName) .ok

instance : Storage (StateM Workspace) where
  readText path := do return told ((spelled path).bind (← get).read)
  isFile path := do return path.text?.any (← get).isFile
  writeText path text := updating fun w => (spelled path).bind fun path => w.write path text
  createFolders path := updating fun w => (spelled path).bind w.makeFolders

end DesignMarkup
