import DesignMarkup.Markup.Render
/-!
Rendering as a walk over an element. A `Logic` is a way to speak about renderings that follows their
steps; what it says of each element on the way it says of the whole walk (`render_shown`), and of
the default form of any element (`renderDefault_shown`).
-/
namespace DesignMarkup.Markup
variable {Memory : Type} {α β : Type}

@[simp] theorem perform_pure (a : α) (s : Session Memory) :
    perform (pure a) s = (some a, s) := rfl

@[simp] theorem perform_get (s : Session Memory) :
    perform (get : Rendering Memory (Session Memory)) s = (some s, s) := rfl

@[simp] theorem perform_modify (f : Session Memory → Session Memory) (s : Session Memory) :
    perform (modify f : Rendering Memory PUnit) s = (some ⟨⟩, f s) := rfl

@[simp] theorem perform_failure (s : Session Memory) :
    perform (failure : Rendering Memory α) s = (none, s) := rfl

theorem perform_bind (m : Rendering Memory α) (f : α → Rendering Memory β) (s : Session Memory) :
    perform (m >>= f) s =
      match perform m s with
      | (some a, t) => perform (f a) t
      | (none, t) => (none, t) := by
  simp only [perform, OptionT.run_bind, Option.elimM, StateT.run_bind]
  cases h : (m.run.run s : Option α × Session Memory) with
  | mk result t => cases result <;> rfl

theorem perform_write (depth : Nat) (v : View) (text : String) (s : Session Memory) :
    perform (write depth v text) s = (some text, s.note (.written depth v text)) := rfl

theorem render_eq (override : Override Memory) (depth : Nat) (v : View) :
    render override depth v.place v.element =
      override v >>= fun
        | some output => write depth v output
        | none => renderDefault override depth v >>= write depth v := by
  obtain ⟨⟨_, _, _, _, _, _, _, _, _, _, _⟩, _⟩ := v
  rw [render]
  congr 1
  funext output
  cases output with
  | some output => rfl
  | none => simp only [renderDefault, bind_assoc, pure_bind]

/-- All elements of a list are known where they stand, the first one at `place`. -/
def Covered (known : View → Prop) (place : Option Nat) (elements : List Element) : Prop :=
  ∀ i e, elements[i]? = some e → known ⟨e, place.map (· + i)⟩

theorem Covered.left {known : View → Prop} {place : Option Nat} {xs ys : List Element}
    (h : Covered known place (xs ++ ys)) : Covered known place xs := by
  intro i e he
  refine h i e ?_
  rw [List.getElem?_append_left (List.getElem?_eq_some_iff.1 he).1]
  exact he

theorem Covered.right {known : View → Prop} {place : Option Nat} {xs ys : List Element}
    (h : Covered known place (xs ++ ys)) : Covered known (place.map (· + xs.length)) ys := by
  intro i e he
  have shifted := h (xs.length + i) e (by rw [List.getElem?_append_right (by omega)]; simpa)
  simpa [Function.comp_def, Nat.add_assoc] using shifted

theorem Covered.head {known : View → Prop} {place : Option Nat} {e : Element}
    {rest : List Element} (h : Covered known place (e :: rest)) : known ⟨e, place⟩ := by
  simpa using h 0 e rfl

theorem Covered.tail {known : View → Prop} {place : Option Nat} {e : Element}
    {rest : List Element} (h : Covered known place (e :: rest)) :
    Covered known (place.map (· + 1)) rest :=
  (show Covered known place ([e] ++ rest) from h).right

section
variable (shown : Nat → View → String → Prop)

def AttributeText (depth : Nat) (place : Option Nat) (key : String) : Attribute → String → Prop
  | .element e, text => ∃ inner, shown depth ⟨e, place⟩ inner ∧ text = key ++ "=" ++ braced inner
  | .data value, text => text = dataAttribute key value

inductive ExtraTexts (depth : Nat) : Option Nat → List (String × Attribute) → List String → Prop where
  | nil (place) : ExtraTexts depth place [] []
  | skip {place key value rest texts} (name : isAttributeName key = false)
      (tail : ExtraTexts depth (place.map (· + (Element.visitAttribute value).length)) rest texts) :
      ExtraTexts depth place ((key, value) :: rest) texts
  | cons {place key value rest text texts} (name : isAttributeName key = true)
      (first : AttributeText shown depth place key value text)
      (tail : ExtraTexts depth (place.map (· + (Element.visitAttribute value).length)) rest texts) :
      ExtraTexts depth place ((key, value) :: rest) (text :: texts)

inductive ChildTexts (depth : Nat) : Option Nat → List Element → List String → Prop where
  | nil (place) : ChildTexts depth place [] []
  | cons {place e rest text texts} (first : shown depth ⟨e, place⟩ text)
      (tail : ChildTexts depth (place.map (· + e.count)) rest texts) :
      ChildTexts depth place (e :: rest) (text :: texts)

def FormText (depth : Nat) (v : View) (text : String) : Prop :=
  ∃ extra children,
    ExtraTexts shown depth (v.place.map (· + 1)) v.element.attributes.extra extra ∧
    ChildTexts shown (depth + 1)
      (v.place.map (· + 1 + (Element.visitAttributes v.element.attributes).length))
      v.element.content.items children ∧
    text = assemble v.element depth extra children

end

structure Logic (holds : ∀ {α : Type}, Rendering Memory α → (α → Prop) → Prop) : Prop where
  pure : ∀ {α : Type} {a : α} {result : α → Prop}, result a → holds (pure a) result
  bind : ∀ {α β : Type} {m : Rendering Memory α} {f : α → Rendering Memory β} {middle : α → Prop}
    {result : β → Prop}, holds m middle → (∀ a, middle a → holds (f a) result) →
      holds (m >>= f) result

section
variable {holds : ∀ {α : Type}, Rendering Memory α → (α → Prop) → Prop} (logic : Logic holds)
  {override : Override Memory} {known : View → Prop} {shown : Nat → View → String → Prop}

include logic in
theorem Logic.mono {m : Rendering Memory α} {weak strong : α → Prop} (h : holds m strong)
    (le : ∀ a, strong a → weak a) : holds m weak := by
  have returned := logic.bind h fun a ha => logic.pure (le a ha)
  rwa [bind_pure] at returned

include logic in
theorem render_node {depth : Nat} {v : View} {given : Option String → Prop}
    {formed result : String → Prop} (gave : holds (override v) given)
    (rest : holds (renderDefault override depth v) formed)
    (output : ∀ text, given (some text) → holds (write depth v text) result)
    (default : ∀ text, given none → formed text → holds (write depth v text) result) :
    holds (render override depth v.place v.element) result := by
  rw [render_eq]
  refine logic.bind gave fun found isGiven => ?_
  cases found with
  | some text => exact output text isGiven
  | none => exact logic.bind rest fun text isForm => default text isGiven isForm

def ShowsForms (holds : ∀ {α : Type}, Rendering Memory α → (α → Prop) → Prop)
    (override : Override Memory) (known : View → Prop) (shown : Nat → View → String → Prop) : Prop :=
  ∀ depth v, known v → holds (renderDefault override depth v) (FormText shown depth v) →
    holds (render override depth v.place v.element) (shown depth v)

mutual

theorem render_shown (logic : Logic holds) (node : ShowsForms holds override known shown)
    (depth : Nat) (place : Option Nat) : ∀ e, Covered known place e.visit →
    holds (render override depth place e) (shown depth ⟨e, place⟩)
  | ⟨_, _, _, _, attributes, content, _, _, _, _, _⟩, covered => by
    rw [Element.visit_eq] at covered
    refine node depth ⟨_, place⟩ covered.head ?_
    refine logic.bind (renderAttributes_shown logic node depth _ _ covered.tail.left) fun extra he => ?_
    have inside := covered.tail.right
    simp only [Option.map_map, Function.comp_def] at inside
    refine logic.bind (renderContent_shown logic node (depth + 1) _ _ inside) fun children hc => ?_
    exact logic.pure ⟨extra, children, he, hc, rfl⟩

theorem renderAttributes_shown (logic : Logic holds) (node : ShowsForms holds override known shown)
    (depth : Nat) (place : Option Nat) : ∀ a : Attributes,
    Covered known place (Element.visitAttributes a) →
    holds (renderAttributes override depth place a) (ExtraTexts shown depth place a.extra)
  | ⟨_, _, _, extra⟩, covered => by
    rw [renderAttributes]
    rw [Element.visitAttributes] at covered
    exact renderExtra_shown logic node depth place extra covered

theorem renderExtra_shown (logic : Logic holds) (node : ShowsForms holds override known shown)
    (depth : Nat) (place : Option Nat) :
    ∀ extra, Covered known place (Element.visitExtra extra) →
    holds (renderExtra override depth place extra) (ExtraTexts shown depth place extra)
  | [], _ => by
    rw [renderExtra]
    exact logic.pure (.nil place)
  | (key, value) :: rest, covered => by
    rw [Element.visitExtra] at covered
    rw [renderExtra]
    split
    · rename_i name
      refine logic.bind (renderAttribute_shown logic node depth place key value covered.left)
        fun text ht => ?_
      refine logic.bind (renderExtra_shown logic node depth _ rest covered.right) fun texts hts => ?_
      exact logic.pure (.cons name ht hts)
    · rename_i name
      exact logic.mono (renderExtra_shown logic node depth _ rest covered.right) fun texts hts =>
        .skip (by simpa using name) hts

theorem renderAttribute_shown (logic : Logic holds) (node : ShowsForms holds override known shown)
    (depth : Nat) (place : Option Nat) (key : String) :
    ∀ a, Covered known place (Element.visitAttribute a) →
    holds (renderAttribute override depth place key a) (AttributeText shown depth place key a)
  | .element e, covered => by
    rw [renderAttribute]
    rw [Element.visitAttribute] at covered
    exact logic.bind (render_shown logic node depth place e covered) fun inner h =>
      logic.pure ⟨inner, h, rfl⟩
  | .data value, _ => by
    rw [renderAttribute]
    exact logic.pure rfl

theorem renderContent_shown (logic : Logic holds) (node : ShowsForms holds override known shown)
    (depth : Nat) (place : Option Nat) :
    ∀ c, Covered known place (Element.visitContent c) →
    holds (renderContent override depth place c) (ChildTexts shown depth place c.items)
  | .children items, covered => by
    rw [renderContent]
    rw [Element.visitContent] at covered
    exact renderAll_shown logic node depth place items covered
  | .text _, _ => by
    rw [renderContent]
    exact logic.pure (.nil place)
  | .asset _, _ => by
    rw [renderContent]
    exact logic.pure (.nil place)

theorem renderAll_shown (logic : Logic holds) (node : ShowsForms holds override known shown)
    (depth : Nat) (place : Option Nat) :
    ∀ items, Covered known place (Element.visitAll items) →
    holds (renderAll override depth place items) (ChildTexts shown depth place items)
  | [], _ => by
    rw [renderAll]
    exact logic.pure (.nil place)
  | e :: rest, covered => by
    rw [Element.visitAll] at covered
    rw [renderAll]
    refine logic.bind (render_shown logic node depth place e covered.left) fun text ht => ?_
    refine logic.bind (renderAll_shown logic node depth _ rest covered.right) fun texts hts => ?_
    exact logic.pure (.cons ht hts)

end

theorem renderDefault_shown (logic : Logic holds) (node : ShowsForms holds override known shown)
    (depth : Nat) (v : View)
    (covered : Covered known (v.place.map (· + 1)) v.element.descendants) :
    holds (renderDefault override depth v) (FormText shown depth v) := by
  refine logic.bind (renderAttributes_shown logic node depth _ _ covered.left) fun extra he => ?_
  have inside := covered.right
  simp only [Option.map_map, Function.comp_def] at inside
  refine logic.bind (renderContent_shown logic node (depth + 1) _ _ inside) fun children hc => ?_
  exact logic.pure ⟨extra, children, he, hc, rfl⟩

end

/-- From any session it keeps to, a rendering has a result, and keeps to it. -/
def Returns (keeps : Session Memory → Prop) (m : Rendering Memory α) (result : α → Prop) : Prop :=
  ∀ s, keeps s → ∃ a t, perform m s = (some a, t) ∧ result a ∧ keeps t

theorem returns_logic (keeps : Session Memory → Prop) : Logic (Returns keeps) where
  pure h s hs := ⟨_, s, rfl, h, hs⟩
  bind hm hf s hs := by
    obtain ⟨a, t, ran, ha, ht⟩ := hm s hs
    obtain ⟨b, u, more, hb, hu⟩ := hf a ha t ht
    exact ⟨b, u, by rw [perform_bind, ran]; exact more, hb, hu⟩

theorem Returns.modify {keeps : Session Memory → Prop} {f : Session Memory → Session Memory}
    (h : ∀ s, keeps s → keeps (f s)) :
    Returns keeps (modify f : Rendering Memory PUnit) fun _ => True :=
  fun s hs => ⟨⟨⟩, f s, rfl, trivial, h s hs⟩

end DesignMarkup.Markup
