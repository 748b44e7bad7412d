import DesignMarkup.Command.Run
/-!
The steps that all commands begin with, over any storage: the configuration is loaded and overridden,
and then the design is read and transformed.
-/
namespace DesignMarkup.Command
variable {σ : Type}

theorem run_bind_ok {α β : Type} {first : Task (StateM σ) α} {a : α} {s s₁ : σ}
    (done : first.run.run s = (.ok a, s₁)) (next : α → Task (StateM σ) β) :
    (first >>= next).run.run s = (next a).run.run s₁ := by
  rw [ExceptT.run_bind, StateT.run_bind, done]
  rfl

theorem orIoFailure_ok {α : Type} {action : StateM σ (Except String α)} {a : α} {s s₁ : σ}
    (done : action.run s = (.ok a, s₁)) : (orIoFailure action).run.run s = (.ok a, s₁) := by
  unfold orIoFailure
  rw [ExceptT.run_mk, StateT.run_bind, done]
  rfl

variable [Storage (StateM σ)] {s s₁ : σ}

theorem loadLayer_ok {path : SystemPath} {format : DocumentFormat} {text : String} {root : Layer}
    (known : DocumentFormat.ofPath path = .ok format)
    (found : (Storage.readText path : StateM σ _).run s = (.ok text, s))
    (parsed : Layer.parse format text = .ok root) :
    (loadLayer path : Task (StateM σ) Layer).run.run s = (.ok root, s) := by
  have read : (readText path : Task (StateM σ) String).run.run s = (.ok text, s) :=
    orIoFailure_ok found
  unfold loadLayer
  rw [known]
  change ((readText path : Task (StateM σ) String) >>= _).run.run s = _
  rw [run_bind_ok read, parsed]
  rfl

theorem prepare_ok {around : Surroundings} {v : Invocation} {c d : Config} {root : Layer}
    {t : Transformed}
    (loaded : (loadConfig around.home v.configPath : Task (StateM σ) Config).run.run s = (.ok c, s₁))
    (layer : (loadLayer v.options.input : Task (StateM σ) Layer).run.run s₁ = (.ok root, s₁))
    (overridden : c.override v.options.overrides = d) (done : transformDocument d root = .ok t) :
    (prepare around v : Task (StateM σ) Prepared).run.run s = (.ok ⟨d, t⟩, s₁) := by
  subst overridden
  unfold prepare
  rw [run_bind_ok loaded, run_bind_ok layer, done]
  rfl

end DesignMarkup.Command
