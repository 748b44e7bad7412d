import DesignMarkup.Markup.Plain
/-!
Source modules: the imports, and one component that returns the markup.
-/
namespace DesignMarkup

structure SourceModule where
  source : String
  findings : List Finding

namespace Markup

def moduleSource (imports : Imports) (component markup : String) : String :=
  let block := imports.render
  (if block = "" then "" else block ++ "\n\n") ++ "export default function " ++ component ++
    "() \x7b\n  return (\n    " ++ markup ++ "\n  );\n\x7d\n"

/-- The markup stands two levels deep in its module. -/
def moduleDepth : Nat := 2

def renderModule? {Memory : Type} [Inhabited Memory] (registry : Registry Memory) (nesting : Nat)
    (imports : Imports) (component : String) (tree : Frozen) (memory : Memory := default) :
    Option (SourceModule × List Run) := do
  let r ← renderAt? registry nesting moduleDepth tree memory
  return (⟨moduleSource imports component r.markup, r.findings⟩, r.runs)

def plainModule (imports : Imports) (component : String) (tree : Frozen) : SourceModule :=
  let r := renderPlain moduleDepth tree
  ⟨moduleSource imports component r.markup, r.findings⟩

end Markup
end DesignMarkup
