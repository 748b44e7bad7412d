import DesignMarkup.Json.Shape
/-!
Two runs of shapes that differ in one field agree if they agree on that field: then both read related
values, or both report the same fault.
-/
namespace DesignMarkup.Json
variable {α β γ δ : Type}

/-- Related values, or the same error. -/
inductive Agree {ε : Type} (R : α → β → Prop) : Except ε α → Except ε β → Prop where
  | ok {a : α} {b : β} (related : R a b) : Agree R (.ok a) (.ok b)
  | error (e : ε) : Agree R (.error e) (.error e)

theorem Agree.refl {ε : Type} (x : Except ε α) : Agree Eq x x := by
  cases x with
  | ok a => exact .ok rfl
  | error e => exact .error e

theorem Agree.of_ok {ε : Type} {R : α → β → Prop} {a : α} {y : Except ε β}
    (h : Agree R (.ok a) y) : ∃ b, y = .ok b ∧ R a b := by
  cases h with
  | ok related => exact ⟨_, rfl, related⟩

theorem Agree.eq {ε : Type} {R : α → α → Prop} {x y : Except ε α} (h : Agree R x y)
    (same : ∀ a b, R a b → a = b) : x = y := by
  cases h with
  | ok related => rw [same _ _ related]
  | error e => rfl

theorem Agree.mono {ε : Type} {R S : α → β → Prop} {x : Except ε α} {y : Except ε β}
    (h : Agree R x y) (weaker : ∀ a b, R a b → S a b) : Agree S x y := by
  cases h with
  | ok related => exact .ok (weaker _ _ related)
  | error e => exact .error e

theorem Agree.bind {ε : Type} {R : α → β → Prop} {S : γ → δ → Prop} {x : Except ε α} {y : Except ε β}
    {f : α → Except ε γ} {g : β → Except ε δ} (h : Agree R x y)
    (next : ∀ a b, R a b → Agree S (f a) (g b)) : Agree S (x >>= f) (y >>= g) := by
  cases h with
  | ok related => exact next _ _ related
  | error e => exact .error e

theorem agree_both {R : α → β → Prop} {S : γ → δ → Prop} {f : Except Fault (α → γ)}
    {g : Except Fault (β → δ)} {x : Except Fault α} {y : Except Fault β}
    (functions : Agree (fun f g => ∀ a b, R a b → S (f a) (g b)) f g) (values : Agree R x y) :
    Agree S (both f x) (both g y) := by
  cases functions with
  | ok maps =>
    cases values with
    | ok related => exact .ok (maps _ _ related)
    | error e => exact .error e
  | error e =>
    cases values with
    | ok _ => exact .error e
    | error e' => exact .error _

/-- The records agree apart from what one has under the key, or the other at the place. -/
def Record.Aside (key : String) (place : Nat) : Record → Record → Prop
  | .keyed a, .keyed b => a.keys = b.keys ∧ ∀ k ≠ key, a.get? k = b.get? k
  | .positional a, .positional b => ∀ i ≠ place, a[i]? = b[i]?
  | _, _ => False

namespace Shape

structure Follows (o : Origin) (r r' : Record) (n : Nat) (R : α → β → Prop) (s : Shape α)
    (s' : Shape β) : Prop where
  size : s.size = n
  size' : s'.size = n
  check : Agree R (s.check o 0 r) (s'.check o 0 r')

section
variable {o : Origin} {r r' : Record} {n : Nat} {key : String} {place : Nat}

theorem follows_pure {R : α → β → Prop} {a : α} {b : β} (related : R a b) :
    Follows o r r' 0 R (pure a) (pure b) :=
  ⟨rfl, rfl, .ok related⟩

theorem Follows.seq_pure {R : γ → δ → Prop} {s : Shape (α → γ)} {s' : Shape (α → δ)} {a : α}
    (h : Follows o r r' n (fun f g => R (f a) (g a)) s s') :
    Follows o r r' n R (s <*> pure a) (s' <*> pure a) where
  size := h.size
  size' := h.size'
  check := by
    have values : Agree (fun x y => x = a ∧ y = a) (.ok a : Except Fault α) (.ok a) := .ok ⟨rfl, rfl⟩
    refine agree_both (h.check.mono fun f g related x y same => ?_) values
    rwa [same.1, same.2]

theorem Follows.seq {R : γ → δ → Prop} {T : α → β → Prop} {s : Shape (α → γ)} {s' : Shape (β → δ)}
    {decode : Decoder α} {decode' : Decoder β} {absent short : Option α} {absent' short' : Option β}
    (values : Agree T ((field key decode absent short).check o n r)
      ((field key decode' absent' short').check o n r'))
    (h : Follows o r r' n (fun f g => ∀ a b, T a b → R (f a) (g b)) s s') :
    Follows o r r' (n + 1) R (s <*> field key decode absent short)
      (s' <*> field key decode' absent' short') := by
  refine ⟨congrArg (· + 1) h.size, congrArg (· + 1) h.size', agree_both h.check ?_⟩
  rw [h.size, h.size', Nat.zero_add]
  exact values

theorem agree_field (aside : r.Aside key place r') {k : String} (otherKey : k ≠ key)
    (otherPlace : n ≠ place) (decode : Decoder α) (absent short : Option α) :
    (field k decode absent short).check o n r = (field k decode absent short).check o n r' := by
  cases r with
  | keyed a =>
    cases r' with
    | keyed b =>
      obtain ⟨keys, same⟩ := aside
      have length : a.length = b.length := by simpa [Dict.keys] using congrArg List.length keys
      simp only [field, keys, same k otherKey, length]
    | positional b => exact aside.elim
  | positional a =>
    cases r' with
    | keyed b => exact aside.elim
    | positional b => simp only [field, aside n otherPlace]

theorem Follows.same {R : γ → δ → Prop} {s : Shape (α → γ)} {s' : Shape (α → δ)} {k : String}
    {decode : Decoder α} {absent short : Option α} (aside : r.Aside key place r')
    (otherKey : k ≠ key) (otherPlace : n ≠ place)
    (h : Follows o r r' n (fun f g => ∀ a, R (f a) (g a)) s s') :
    Follows o r r' (n + 1) R (s <*> field k decode absent short)
      (s' <*> field k decode absent short) := by
  refine Follows.seq (T := Eq) ?_ ⟨h.size, h.size', h.check.mono fun f g related a b same => ?_⟩
  · rw [agree_field aside otherKey otherPlace]
    exact .refl _
  · exact same ▸ related a

end

theorem agree_reported {R : α → β → Prop} {x : Except Refusal α} {y : Except Refusal β} (h : Agree R x y)
    (rank : Nat) (p : Place) :
    Agree R (ranked rank (Refusal.under p x)) (ranked rank (Refusal.under p y)) := by
  cases h with
  | ok related => exact .ok related
  | error e => exact .error _

theorem agree_settle {R : α → β → Prop} {expected : String} {s : Shape α} {s' : Shape β}
    {x : Except Fault α} {y : Except Fault β} (size : s.size = s'.size) (h : Agree R x y) :
    Agree R (settle expected s x) (settle expected s' y) := by
  cases h with
  | ok related => exact .ok related
  | error fault =>
    obtain ⟨rank, refusal⟩ := fault
    cases refusal with
    | some e => exact .error e
    | none =>
      simp only [settle, size]
      exact .error _

section
variable {R : α → β → Prop} {s : Shape α} {s' : Shape β} {o : Origin} {n : Nat} (name : String)

theorem Follows.decode_object {fields fields' : Dict Json}
    (h : Follows o (.keyed fields) (.keyed fields') n R s s') :
    Agree R (s.decode name o (.object fields)) (s'.decode name o (.object fields')) :=
  agree_settle (h.size.trans h.size'.symm) h.check

theorem Follows.decode_array {items items' : List Json}
    (h : Follows o (.positional items) (.positional items') n R s s')
    (length : items.length = items'.length) :
    Agree R (s.decode name o (.array items)) (s'.decode name o (.array items')) := by
  have size : s.size = s'.size := h.size.trans h.size'.symm
  refine (agree_settle size h.check).bind fun a b related => ?_
  rw [← size, ← length]
  split
  · exact .ok related
  · exact .error _

end

end Shape
end DesignMarkup.Json
