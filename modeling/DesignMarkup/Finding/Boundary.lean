import DesignMarkup.Failure
import DesignMarkup.Finding.Basic
/-!
Findings at the boundary to the outside: an id must be carried by exactly one element. Lenient
resolution drops the findings that fail this, strict resolution refuses the first of them.
-/
namespace DesignMarkup

inductive Boundary where
  | strict
  | lenient
deriving DecidableEq, Repr

instance : Keyword Boundary := ⟨[("strict", .strict), ("lenient", .lenient)]⟩

def Boundary.ofText (text : String) : Except Failure Boundary :=
  let name := Text.asciiLower text
  match Keyword.ofText? name with
  | some mode => .ok mode
  | none =>
    .error (.config ("Unknown boundary mode '" ++ name ++ "' (expected strict or lenient)"))

namespace Finding

/-- The ids of the finding that do not name exactly one of `ids`. -/
def unresolved (ids : List String) (f : Finding) : List String :=
  if f.nodeIds.isEmpty then ["(none)"] else f.nodeIds.filter fun id => ids.count id != 1

def resolves (ids : List String) (f : Finding) : Bool := (f.unresolved ids).isEmpty

def resolveWith (ids : List String) (mode : Boundary) (fs : List Finding) :
    Except Failure (List Finding) :=
  match mode with
  | .lenient => .ok (fs.filter (resolves ids))
  | .strict =>
    match fs.find? (!resolves ids ·) with
    | none => .ok fs
    | some f => .error (.unresolved f.name (f.unresolved ids))

def resolveAll (tree : Element) (mode : Boundary) (fs : List Finding) :
    Except Failure (List Finding) :=
  resolveWith tree.ids mode fs

end Finding
end DesignMarkup
