import DesignMarkup.Layer.Form
import DesignMarkup.Layer.PropertyName
import DesignMarkup.Style.Resolve
import DesignMarkup.Element.Codec
/-!
The elements of layers. Each layer gives one element from its own fields, the frame it is placed in
and the configuration; its children stay in their order, also where they are emitted side by side.
What cannot be shown becomes a finding, and never stops the run. A layer without an id gives no
finding.
-/
namespace DesignMarkup

structure Emission where
  tree : Element
  findings : List Finding

/-- Runs tasks half by half, so many splits deep; the halves may run side by side. The results are
joined in the order of the tasks. -/
def forkJoin {α : Type} : (splits : Nat) → List (Unit → α) → List α
  | 0, tasks => tasks.map (· ())
  | n + 1, tasks =>
    let half := tasks.length / 2
    forkJoin n (tasks.take half) ++ forkJoin n (tasks.drop half)

def Config.runAll {α : Type} (c : Config) (tasks : List (Unit → α)) : List α :=
  if c.parallel then forkJoin (tasks.length.log2 + 1) tasks else tasks.map (· ())

namespace Layer

def bareElement (l : Layer) (tag : String) : Element :=
  let e := Element.of tag l.name l.kind
  if l.id = "" then e else e.withId l.id

def report (l : Layer) (finding : String → Finding) : List Finding :=
  if l.id = "" then [] else [finding l.id]

def styledElement (l : Layer) (tag : String) (parent : Option ParentFrame) (target : StyleTarget) :
    Element :=
  (l.bareElement tag).withStyle (l.style parent target).1

def collisions (l : Layer) (parent : Option ParentFrame) (target : StyleTarget) : List Finding :=
  (l.style parent target).2.toList.flatMap fun c => l.report (Finding.styleAmbiguity · c)

/-- An empty element, so that its siblings keep their places. -/
def emitPlaceholder (l : Layer) (detail : String) : Emission :=
  ⟨l.bareElement "div", l.report (Finding.schemaViolation · detail)⟩

def emitText (l : Layer) (parent : Option ParentFrame) : Emission :=
  ⟨(l.styledElement "span" parent .text).withText (l.characters.getD ""),
    l.collisions parent .text⟩

def withProperties (l : Layer) (e : Element) : Element :=
  l.componentProperties.foldl (fun e (property, p) =>
    match attributeName? property with
    | some name => e.withAttribute name (.data p.value)
    | none => e) e

/-- What is below shows only as the first text there. -/
def emitComponent (l : Layer) (parent : Option ParentFrame) (m : ComponentMapping) : Emission :=
  let e := l.withProperties
    ((l.styledElement m.exportName parent .container).withComponent m.package m.isDefault)
  ⟨match l.firstText with
    | some text => e.withText text
    | none => e,
    l.collisions parent .container⟩

def emitAsset (l : Layer) (parent : Option ParentFrame) (url : String) : Emission :=
  let e := (l.styledElement "img" parent .asset).withAsset url
  let flattened : List Finding :=
    if l.children.isEmpty then []
    else l.report (Finding.flattenedChildren · l.children.length)
  ⟨{ e with attributes := { e.attributes with src := some url, alt := some l.name } },
    l.collisions parent .asset ++ flattened⟩

def emitContainer (l : Layer) (parent : Option ParentFrame) (below : List Emission) : Emission :=
  ⟨(l.styledElement "div" parent .container).withChildren (below.map (·.tree)),
    l.collisions parent .container ++ below.flatMap (·.findings)⟩

mutual

def emit (c : Config) (parent : Option ParentFrame) : Layer → Emission
  | l@{ children, .. } =>
    match l.form c with
    | .placeholder detail => l.emitPlaceholder detail
    | .text => l.emitText parent
    | .component m => l.emitComponent parent m
    | .asset url => l.emitAsset parent url
    | .container => l.emitContainer parent (c.runAll (emitTasks c (ParentFrame.of? l) children))

def emitTasks (c : Config) (parent : Option ParentFrame) : List Layer → List (Unit → Emission)
  | [] => []
  | l :: rest =>
    if c.keeps l then (fun _ => emit c parent l) :: emitTasks c parent rest
    else emitTasks c parent rest

end

end Layer

structure Transformed where
  mode : TransformMode
  tree : Element
  imports : Imports
  findings : List Finding

/-- The root is kept even if it is hidden. -/
def transform (c : Config) (root : Layer) : Transformed :=
  let emission := root.emit c none
  { mode := c.mode
    tree := emission.tree
    imports := emission.tree.imports
    findings := emission.findings ++
      emission.tree.importConflicts.filterMap Finding.dependencyConflict? }

def transformDocument (c : Config) (root : Layer) : Except Failure Transformed := do
  let t := transform c root
  return { t with findings := ← Finding.resolveAll t.tree c.boundary t.findings }

def Transformed.encode (t : Transformed) : Json :=
  .object [("setting", t.mode.encodeSetting), ("tree", t.tree.encode),
    ("imports", t.imports.encode), ("diagnostics", Finding.encodeAll t.findings)]

end DesignMarkup
