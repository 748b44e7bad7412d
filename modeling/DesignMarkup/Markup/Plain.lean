import DesignMarkup.Markup.Traversal
/-!
Rendering without hooks always has a result, which `renderPlain` gives.
-/
namespace DesignMarkup.Markup

def Total {α : Type} (m : Rendering Unit α) : Prop := Returns (fun _ => True) m fun _ => True

theorem overrideBy_total (inner : Option (Override Unit)) (v : View) :
    Total (overrideBy [] inner v) := by
  intro s _
  unfold overrideBy
  cases v.element.template with
  | none => exact ⟨none, s, rfl, trivial, trivial⟩
  | some hook =>
    simp only [perform_bind, perform_get]
    cases s.recorded? v.key? with
    | some output => exact ⟨output, s, rfl, trivial, trivial⟩
    | none => exact ⟨none, _, rfl, trivial, trivial⟩

theorem overrideWithin_total (nesting : Nat) (v : View) : Total (overrideWithin [] nesting v) := by
  cases nesting <;> exact overrideBy_total _ v

theorem render_total (nesting depth : Nat) (v : View) :
    Total (render (overrideWithin [] nesting) depth v.place v.element) := by
  let anySession (_ : Session Unit) : Prop := True
  let anyText (_ : Nat) (_ : View) (_ : String) : Prop := True
  have logic := returns_logic anySession
  have node : ∀ depth v, True →
      Returns anySession (renderDefault (overrideWithin [] nesting) depth v)
        (FormText anyText depth v) →
      Returns anySession (render (overrideWithin [] nesting) depth v.place v.element)
        (anyText depth v) := by
    intro depth v _ rest
    have write_total (text : String) : Returns anySession (write depth v text) (anyText depth v) :=
      fun s _ => ⟨text, _, rfl, trivial, trivial⟩
    exact render_node logic (overrideWithin_total nesting v) rest (fun text _ => write_total text)
      fun text _ _ => write_total text
  exact render_shown logic node depth v.place v.element fun _ _ _ => trivial

theorem renderAt?_isSome (nesting depth : Nat) (tree : Frozen) :
    (renderAt? ([] : Registry) nesting depth tree).isSome = true := by
  obtain ⟨markup, session, ran, _⟩ :=
    render_total nesting depth ⟨tree.element, some 0⟩ { memory := default } trivial
  simp only [renderAt?, rendering, ran]
  rfl

def renderPlain (depth : Nat) (tree : Frozen) : Rendered :=
  (renderAt? ([] : Registry) 0 depth tree).get (renderAt?_isSome 0 depth tree)

end DesignMarkup.Markup
