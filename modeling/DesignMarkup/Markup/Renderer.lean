import DesignMarkup.Markup.Render
/-!
A renderer, which is used for one tree after another. It keeps the outputs of hooks by the id of
their element, or else by the position that its table has for the address of the element. The outputs
are forgotten and the table is made anew when a rendering starts; the findings are handed out when it
ends.
-/
namespace DesignMarkup.Markup
variable {Memory : Type}

/-- Where the elements of a tree are in memory, by their position. Other elements are elsewhere. -/
structure Layout where
  address : Nat → Nat
  copy : Element → Nat
  injective : ∀ m n, address m = address n → m = n
  apart : ∀ e n, copy e ≠ address n

def Layout.addressOf (layout : Layout) (v : View) : Nat :=
  match v.place with
  | some n => layout.address n
  | none => layout.copy v.element

def idless (tree : Frozen) : List Nat :=
  (tree.element.visit.zipIdx.filter (·.1.id.isNone)).map (·.2)

def Layout.positions (layout : Layout) (tree : Frozen) : List (Nat × Nat) :=
  (idless tree).map fun n => (layout.address n, n)

def Layout.locate (layout : Layout) (positions : List (Nat × Nat)) (v : View) : View :=
  match v.element.id with
  | some _ => v
  | none => { v with place := positions.lookup (layout.addressOf v) }

def overrideLocated (registry : Registry Memory) (locate : View → View) :
    (nesting : Nat) → Override Memory
  | 0, v => overrideBy registry none (locate v)
  | n + 1, v => overrideBy registry (some (overrideLocated registry locate n)) (locate v)

structure Job where
  tree : Frozen
  depth : Nat
  layout : Layout

structure Renderer (Memory : Type := Unit) where
  memory : Memory
  outputs : List (Key × Option String) := []
  positions : List (Nat × Nat) := []
  findings : List Finding := []

namespace Renderer

def start (r : Renderer Memory) (q : Job) : Renderer Memory :=
  { r with outputs := [], positions := q.layout.positions q.tree }

def session (r : Renderer Memory) : Session Memory :=
  { memory := r.memory, outputs := r.outputs, findings := r.findings }

def finish (s : Session Memory) : Renderer Memory := { memory := s.memory, outputs := s.outputs }

def run (registry : Registry Memory) (nesting : Nat) (r : Renderer Memory) (q : Job) :
    Option String × Session Memory :=
  let override := overrideLocated registry (q.layout.locate r.positions) nesting
  perform (render override q.depth (some 0) q.tree.element) r.session

def render? (registry : Registry Memory) (nesting : Nat) (r : Renderer Memory) (q : Job) :
    Option (Rendered × Renderer Memory) :=
  match (r.start q).run registry nesting q with
  | (some markup, s) => some (⟨markup, s.findings, s.runs⟩, finish s)
  | (none, _) => none

def renderAll? (registry : Registry Memory) (nesting : Nat) (r : Renderer Memory) :
    List Job → Option (List Rendered)
  | [] => some []
  | q :: rest => do
    let (rendered, r) ← r.render? registry nesting q
    return rendered :: (← r.renderAll? registry nesting rest)

end Renderer
end DesignMarkup.Markup
