import DesignMarkup.Text.Basic
/-!
Paths of files, with `/` between their components. Repeated and final slashes do not count, nor does
a `.` except in front.
-/
namespace DesignMarkup.FilePath

inductive Component where
  | root
  | current
  | parent
  | normal (name : String)
deriving DecidableEq, Repr

def Component.isNormal : Component → Bool
  | normal _ => true
  | _ => false

def componentOf (name : String) : Component := if name = ".." then .parent else .normal name

def isIdle (name : String) : Bool := name.isEmpty || name == "."

def components (path : String) : List Component :=
  let names := (Text.split path '/').filter (!isIdle ·)
  let first := (Text.split path '/').headD ""
  let front : List Component :=
    if Text.startsWith path "/" then [.root] else if first = "." then [.current] else []
  front ++ names.map componentOf

def fileName? (path : String) : Option String :=
  match (components path).getLast? with
  | some (.normal name) => some name
  | _ => none

/-- What follows the last point of the name; a point in front of all else begins no extension. -/
def extension? (path : String) : Option String :=
  match (fileName? path).bind (Text.splitLast? · '.') with
  | some (stem, extension) => if stem.isEmpty then none else some extension
  | none => none

def Component.text : Component → String
  | root => ""
  | current => "."
  | parent => ".."
  | normal name => name

def folderOf (path : String) : String :=
  match (components path).dropLast with
  | [] => ""
  | [.root] => "/"
  | front => "/".intercalate (front.map Component.text)

/-- An absolute path stands for itself. -/
def join (directory path : String) : String :=
  if Text.startsWith path "/" ∨ directory = "" then path
  else if Text.endsWith directory "/" then directory ++ path
  else directory ++ "/" ++ path

end DesignMarkup.FilePath
