import DesignMarkup.Element.Basic
import DesignMarkup.Failure
/-!
What must hold of an element before it is written out: tags are not empty, a component's package is
among the element's dependencies with the same import kind, and ids are unique. `Frozen` elements
have passed.
-/
namespace DesignMarkup

inductive Violation where
  | emptyTag (label : String)
  | missingDependency (label package : String)
  | importKindMismatch (label package : String)
  | duplicateId (id : String)
deriving DecidableEq, Repr

def Violation.message : Violation → String
  | emptyTag label => "node " ++ label ++ ": empty tag"
  | missingDependency label package =>
    "node " ++ label ++ ": claims package '" ++ package ++ "' without a matching dependency"
  | importKindMismatch label package =>
    "node " ++ label ++ ": import kind disagrees with its dependency on '" ++ package ++ "'"
  | duplicateId id => "duplicate node id '" ++ id ++ "'"

namespace Element

def label (e : Element) : String := e.id.getD ("<" ++ e.tag ++ "> " ++ e.name)

def packageViolation? (e : Element) (package : String) : Option Violation :=
  match e.dependencies.get? e.tag package with
  | none => some (.missingDependency e.label package)
  | some d => if d.isDefault = e.isDefault then none else some (.importKindMismatch e.label package)

def ownViolations (e : Element) : List Violation :=
  (if e.tag = "" then [.emptyTag e.label] else []) ++
    (e.package.bind e.packageViolation?).toList

def violationsFrom (seen : List String) : List Element → List Violation
  | [] => []
  | e :: rest =>
    match e.id with
    | none => e.ownViolations ++ violationsFrom seen rest
    | some id =>
      if id ∈ seen then e.ownViolations ++ .duplicateId id :: violationsFrom seen rest
      else e.ownViolations ++ violationsFrom (id :: seen) rest

def violations (e : Element) : List Violation := violationsFrom [] e.visit

end Element

structure Frozen where
  element : Element
  sound : element.violations = []

def Element.freeze (e : Element) : Except Failure Frozen :=
  if h : e.violations = [] then .ok ⟨e, h⟩
  else .error (.invalidTree ("; ".intercalate (e.violations.map Violation.message)))

end DesignMarkup
