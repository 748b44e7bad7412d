import DesignMarkup.Json.Shape
import DesignMarkup.Proofs.Dict
/-!
Records are read back from the fields they are written as. `Recovers` is the law of a shape with the
entries of its record; `Gives` is what holds of all that a shape reads.
-/
namespace DesignMarkup.Json
variable {α β : Type}

mutual

/-- Whole numbers have 64 bits and the others are finite, as in all that is read from text. -/
def standard : Json → Bool
  | .int n => fitsSigned 64 n || fitsUnsigned 64 n
  | .float x => x.isFinite
  | .array items => standardItems items
  | .object entries => standardEntries entries
  | _ => true

def standardItems : List Json → Bool
  | [] => true
  | v :: rest => standard v && standardItems rest

def standardEntries : List (String × Json) → Bool
  | [] => true
  | (_, v) :: rest => standard v && standardEntries rest

end

theorem standardItems_iff {items : List Json} :
    standardItems items = true ↔ ∀ v ∈ items, v.standard = true := by
  induction items with
  | nil => simp [standardItems]
  | cons v rest ih => simp [standardItems, ih]

theorem standardEntries_iff {entries : List (String × Json)} :
    standardEntries entries = true ↔ ∀ entry ∈ entries, entry.2.standard = true := by
  induction entries with
  | nil => simp [standardEntries]
  | cons entry rest ih =>
    obtain ⟨key, v⟩ := entry
    simp [standardEntries, ih]

def Record.standard : Record → Bool
  | .keyed fields => standardEntries fields
  | .positional items => standardItems items

section
variable {ε : Type}

theorem map_eq_ok {f : α → β} {x : Except ε α} {b : β} :
    f <$> x = .ok b ↔ ∃ a, x = .ok a ∧ f a = b := by
  cases x <;> simp [Functor.map, Except.map]

theorem bind_eq_ok {x : Except ε α} {f : α → Except ε β} {b : β} :
    x >>= f = .ok b ↔ ∃ a, x = .ok a ∧ f a = .ok b := by
  cases x <;> simp [bind, Except.bind]

theorem seq_eq_ok {f : Except ε (α → β)} {x : Except ε α} {b : β} :
    (f <*> x) = .ok b ↔ ∃ g, f = .ok g ∧ ∃ a, x = .ok a ∧ g a = b := by
  rw [seq_eq_bind_map, bind_eq_ok]
  simp only [map_eq_ok]

end

abbrev Slot := String × Option Json

def Slot.entries (slots : List Slot) : List (String × Json) :=
  slots.flatMap fun slot => entry? slot.1 slot.2

/-- The fields have the values of the slots, and none where a slot is empty. -/
def Holds (fields : Dict Json) (slots : List Slot) : Prop :=
  ∀ slot ∈ slots, fields.get? slot.1 = slot.2

theorem holds_append {fields : Dict Json} {first second : List Slot} :
    Holds fields (first ++ second) ↔ Holds fields first ∧ Holds fields second :=
  List.forall_mem_append

theorem Slot.entries_append (first second : List Slot) :
    Slot.entries (first ++ second) = Slot.entries first ++ Slot.entries second :=
  List.flatMap_append ..

theorem get?_eq_none {fields : List (String × Json)} {key : String}
    (absent : key ∉ fields.map Prod.fst) : Dict.get? fields key = none := by
  induction fields with
  | nil => rfl
  | cons entry rest ih =>
    obtain ⟨k, v⟩ := entry
    simp only [List.map_cons, List.mem_cons, not_or] at absent
    rw [Dict.get?, if_neg (Ne.symm absent.1), ih absent.2]

theorem Slot.keys_entries (slots : List Slot) :
    (Slot.entries slots).map Prod.fst ⊆ slots.map Prod.fst := by
  intro key written
  obtain ⟨entry, member, rfl⟩ := List.mem_map.1 written
  obtain ⟨⟨k, value⟩, slot, here⟩ := List.mem_flatMap.1 member
  cases value with
  | none => simp [ entry?] at here
  | some v =>
    obtain rfl : entry = (k, v) := by simpa [ entry?] using here
    exact List.mem_map_of_mem slot

theorem Slot.nodup_entries {slots : List Slot} (distinct : (slots.map Prod.fst).Nodup) :
    ((Slot.entries slots).map Prod.fst).Nodup := by
  refine List.Nodup.sublist ?_ distinct
  induction slots with
  | nil => exact .refl _
  | cons slot rest ih =>
    obtain ⟨key, value⟩ := slot
    have later := ih (List.nodup_cons.1 distinct).2
    cases value with
    | none => exact later.cons key
    | some v => exact later.cons_cons key

theorem holds_entries {slots : List Slot} {rest : List (String × Json)}
    (distinct : (slots.map Prod.fst).Nodup)
    (apart : ∀ key ∈ slots.map Prod.fst, key ∉ rest.map Prod.fst) :
    Holds (Slot.entries slots ++ rest) slots := by
  induction slots with
  | nil => simp [Holds]
  | cons slot slots ih =>
    obtain ⟨k, value⟩ := slot
    simp only [List.map_cons, List.nodup_cons, List.forall_mem_cons] at distinct apart
    have later : k ∉ (Slot.entries slots ++ rest).map Prod.fst := by
      rw [List.map_append, List.mem_append, not_or]
      exact ⟨fun written => distinct.1 (Slot.keys_entries slots written), apart.1⟩
    have below := ih distinct.2 apart.2
    intro slot member
    rcases List.mem_cons.1 member with rfl | member
    · cases value with
      | none => exact get?_eq_none later
      | some v => exact if_pos rfl
    · have other : k ≠ slot.1 := fun same =>
        distinct.1 (same ▸ List.mem_map_of_mem member)
      rw [← below slot member]
      cases value with
      | none => rfl
      | some v => exact if_neg other

/-- Whatever the origin, the value is read, and as `a` if `P` holds. -/
def Recovered (P : Prop) (decode : Decoder α) (v : Json) (a : α) : Prop :=
  ∃ b, (∀ o, decode o v = .ok b) ∧ (P → b = a)

theorem recovered_of_eq {P : Prop} {decode : Decoder α} {v : Json} {a : α}
    (read : ∀ o, decode o v = .ok a) : Recovered P decode v a := ⟨a, read, fun _ => rfl⟩

theorem Recovered.exists_same {P : Prop} {decode : Decoder α} {v : Json} {a : α}
    (h : Recovered P decode v a) : ∃ b, Recovered True decode v b ∧ (P → b = a) := by
  obtain ⟨b, read, same⟩ := h
  exact ⟨b, recovered_of_eq read, same⟩

/-- What is written is read back, unless it is written as `null`; that is so of nothing that is
`valid`, and only such values are read. -/
class Lossless (decode : Decoder α) (encode : outParam (α → Json))
    (valid : outParam (α → Prop)) : Prop where
  reads : ∀ o a, encode a ≠ .null → decode o (encode a) = .ok a
  writes : ∀ a, valid a → encode a ≠ .null
  keeps : ∀ o v a, v.standard = true → decode o v = .ok a → valid a

/-- From fields with the written entries, and none else under the keys, a value is read; it is `a`
if `P` holds. -/
def Restores (P : Prop) {ε : Type} (read : Dict Json → Except ε α) (keys : List String)
    (written : List (String × Json)) (a : α) : Prop :=
  ∃ slots : List Slot, slots.map Prod.fst = keys ∧ Slot.entries slots = written ∧
    ∀ fields, Holds fields slots → ∃ b, read fields = .ok b ∧ (P → b = a)

section
variable {P : Prop} {ε : Type} {keys more : List String} {written later : List (String × Json)} {a : α}

theorem Restores.mono {Q : Prop} {read : Dict Json → Except ε α}
    (h : Restores P read keys written a) (stronger : Q → P) : Restores Q read keys written a := by
  obtain ⟨slots, hasKeys, hasEntries, reads⟩ := h
  refine ⟨slots, hasKeys, hasEntries, fun fields holds => ?_⟩
  obtain ⟨b, got, same⟩ := reads fields holds
  exact ⟨b, got, fun q => same (stronger q)⟩

theorem Restores.map {ε' : Type} {read : Dict Json → Except ε α} {mapped : Dict Json → Except ε' β}
    (h : Restores P read keys written a) (f : α → β)
    (maps : ∀ fields b, read fields = .ok b → mapped fields = .ok (f b)) :
    Restores P mapped keys written (f a) := by
  obtain ⟨slots, hasKeys, hasEntries, reads⟩ := h
  refine ⟨slots, hasKeys, hasEntries, fun fields holds => ?_⟩
  obtain ⟨b, got, same⟩ := reads fields holds
  exact ⟨f b, maps fields b got, fun p => congrArg f (same p)⟩

theorem Restores.seq {read : Dict Json → Except ε (α → β)} {next : Dict Json → Except ε α}
    {both : Dict Json → Except ε β} {f : α → β} (h : Restores P read keys written f)
    (n : Restores P next more later a)
    (combines : ∀ fields g b, read fields = .ok g → next fields = .ok b → both fields = .ok (g b)) :
    Restores P both (keys ++ more) (written ++ later) (f a) := by
  obtain ⟨slots, rfl, rfl, reads⟩ := h
  obtain ⟨others, rfl, rfl, readsNext⟩ := n
  refine ⟨slots ++ others, by simp, Slot.entries_append .., fun fields holds => ?_⟩
  obtain ⟨holdsFirst, holdsNext⟩ := holds_append.1 holds
  obtain ⟨g, got, same⟩ := reads fields holdsFirst
  obtain ⟨b, gotNext, sameNext⟩ := readsNext fields holdsNext
  exact ⟨g b, combines fields g b got gotNext, fun p => by rw [same p, sameNext p]⟩

end

namespace Shape
variable {P : Prop}

def Recovers (P : Prop) (shape : Shape α) (keys : List String) (written : List (String × Json))
    (a : α) : Prop :=
  ∀ o i, Restores P (fun fields => shape.check o i (.keyed fields)) keys written a

theorem Recovers.map {shape : Shape α} {keys : List String} {written : List (String × Json)} {a : α}
    (h : shape.Recovers P keys written a) (f : α → β) :
    (f <$> shape).Recovers P keys written (f a) := fun o i =>
  (h o (i + 0)).map f fun fields b read => by
    change both (.ok f) (shape.check o (i + 0) (.keyed fields)) = .ok (f b)
    rw [read, both]

theorem Recovers.seq {shape : Shape (α → β)} {next : Shape α} {keys more : List String}
    {written later : List (String × Json)} {f : α → β} {a : α}
    (h : shape.Recovers P keys written f) (n : next.Recovers P more later a) :
    (shape <*> next).Recovers P (keys ++ more) (written ++ later) (f a) := fun o i =>
  (h o i).seq (n o (i + shape.size)) fun fields g b read readNext => by
    change both (shape.check o i _) (next.check o (i + shape.size) _) = .ok (g b)
    rw [read, readNext, both]

theorem Recovers.decodeKeyed {shape : Shape α} {keys : List String} {written : List (String × Json)}
    {a : α} (h : shape.Recovers P keys written a) (expected : String) (o : Origin) :
    Restores P (Shape.decodeKeyed expected shape o) keys written a :=
  (h o 0).map id fun fields b read => by
    simp only [Shape.decodeKeyed, read, settle, id]

theorem recovers_field {key : String} {decode : Decoder α} {absent short : Option α}
    {value : Option Json} {a : α} (present : ∀ v ∈ value, Recovered P decode v a)
    (missing : value = none → absent = some a) :
    (field key decode absent short).Recovers P [key] ( entry? key value) a := by
  refine fun o i => ⟨[(key, value)], rfl, by simp [Slot.entries], fun fields holds => ?_⟩
  have found : fields.get? key = value := holds _ (List.mem_singleton.2 rfl)
  cases value with
  | none => exact ⟨a, by simp only [field, found, missing rfl], fun _ => rfl⟩
  | some v =>
    obtain ⟨b, read, same⟩ := present v rfl
    exact ⟨b, by simp only [field, found, read, Refusal.under, ranked], same⟩

theorem recovers_required {key : String} {decode : Decoder α} {v : Json} {a : α}
    (h : Recovered P decode v a) :
    (required key decode).Recovers P [key] ( entry? key (some v)) a :=
  recovers_field (by rintro _ ⟨⟩; exact h) (by simp)

theorem recovers_withDefault {key : String} {decode : Decoder α} {default : α} {value : Option Json}
    {a : α} (present : ∀ v ∈ value, Recovered P decode v a) (missing : value = none → default = a) :
    (withDefault key default decode).Recovers P [key] ( entry? key value) a :=
  recovers_field present fun none => congrArg some (missing none)

section
variable {decode : Decoder α} {encode : α → Json} {valid : α → Prop} [law : Lossless decode encode valid]
  {key : String} {value : Option α}

theorem recovered_nullable (h : P → ∀ a ∈ value, valid a) :
    ∀ v ∈ value.map encode, Recovered P (Decode.nullable decode) v value := by
  intro v written
  obtain ⟨a, rfl, rfl⟩ := Option.map_eq_some_iff.1 written
  by_cases isNull : encode a = .null
  · refine ⟨none, fun o => by rw [isNull, Decode.nullable], fun p => ?_⟩
    exact absurd isNull (law.writes a (h p a rfl))
  · refine ⟨some a, fun o => ?_, fun _ => rfl⟩
    have read := law.reads o a isNull
    unfold Decode.nullable
    split
    · rename_i null
      exact absurd null isNull
    · rw [read]
      rfl

theorem recovers_optional (h : P → ∀ a ∈ value, valid a) :
    (optional key decode).Recovers P [key] ( entry? key (value.map encode)) value :=
  recovers_field (recovered_nullable h) fun empty => by rw [Option.map_eq_none_iff.1 empty]

theorem recovers_optionalLast (h : P → ∀ a ∈ value, valid a) :
    (optionalLast key decode).Recovers P [key] ( entry? key (value.map encode)) value :=
  recovers_field (recovered_nullable h) fun empty => by rw [Option.map_eq_none_iff.1 empty]

end

theorem recovers_any {decode : Decoder α} {encode : α → Json} [Lossless decode encode fun _ => True]
    {key : String} {value : Option α} :
    (optional key decode).Recovers P [key] ( entry? key (value.map encode)) value :=
  recovers_optional fun _ _ _ => trivial

def Gives (shape : Shape α) (Q : α → Prop) : Prop :=
  ∀ o i r a, r.standard = true → shape.check o i r = .ok a → Q a

theorem both_eq_ok {f : Except Fault (α → β)} {a : Except Fault α} {b : β}
    (h : both f a = .ok b) : ∃ g x, f = .ok g ∧ a = .ok x ∧ g x = b := by
  cases f with
  | error e => cases a <;> exact nomatch h
  | ok g =>
    cases a with
    | error e => exact nomatch h
    | ok x => exact ⟨g, x, rfl, rfl, Except.ok.inj h⟩

theorem of_seq_check {shape : Shape (α → β)} {next : Shape α} {o : Origin} {i : Nat} {r : Record}
    {b : β} (h : (shape <*> next).check o i r = .ok b) :
    (∃ f, shape.check o i r = .ok f) ∧ ∃ a, next.check o (i + shape.size) r = .ok a := by
  obtain ⟨f, a, first, second, -⟩ := both_eq_ok h
  exact ⟨⟨f, first⟩, a, second⟩

theorem Gives.map {shape : Shape α} {Q : β → Prop} {f : α → β} (h : shape.Gives fun a => Q (f a)) :
    (f <$> shape).Gives Q := by
  intro o i r b standard read
  obtain ⟨g, a, same, first, rfl⟩ := both_eq_ok read
  cases same
  exact h o _ r a standard first

theorem Gives.seq {shape : Shape (α → β)} {next : Shape α} {R : α → Prop} {Q : β → Prop}
    (n : next.Gives R) (h : shape.Gives fun f => ∀ a, R a → Q (f a)) :
    (shape <*> next).Gives Q := by
  intro o i r b standard read
  obtain ⟨f, a, first, second, rfl⟩ := both_eq_ok read
  exact h o i r f standard first a (n o _ r a standard second)

theorem under_eq_ok {place : Place} {x : Except Refusal α} {a : α} :
    Refusal.under place x = .ok a ↔ x = .ok a := by
  cases x <;> simp [Refusal.under]

theorem ranked_eq_ok {rank : Nat} {x : Except Refusal α} {a : α} :
    ranked rank x = .ok a ↔ x = .ok a := by
  cases x <;> simp [ranked]

theorem of_field_check {key : String} {decode : Decoder α} {absent short : Option α} {o : Origin}
    {i : Nat} {fields : Dict Json} {v : Json} {a : α} (found : fields.get? key = some v)
    (h : (field key decode absent short).check o i (.keyed fields) = .ok a) : decode o v = .ok a := by
  simpa only [field, found, ranked_eq_ok, under_eq_ok] using h

theorem gives_field {key : String} {decode : Decoder α} {absent short : Option α} {Q : α → Prop}
    (present : ∀ o v a, v.standard = true → decode o v = .ok a → Q a)
    (missing : ∀ a ∈ absent, Q a) (beyond : ∀ a ∈ short, Q a) :
    (field key decode absent short).Gives Q := by
  intro o i r a standard read
  cases r with
  | keyed fields =>
    cases found : fields.get? key with
    | some v =>
      have read := of_field_check found read
      exact present o v a (standardEntries_iff.1 standard _ (Dict.mem_of_get? found)) read
    | none =>
      cases absent with
      | none => simp [field, found] at read
      | some b =>
        simp only [field, found, Except.ok.injEq] at read
        exact missing a (by simp [read])
  | positional items =>
    simp only [field] at read
    cases found : items[i]? with
    | some v =>
      simp only [found, ranked_eq_ok, under_eq_ok] at read
      exact present o v a (standardItems_iff.1 standard _ (List.mem_of_getElem? found)) read
    | none =>
      cases short with
      | none => simp [found] at read
      | some b =>
        simp only [found, Except.ok.injEq] at read
        exact beyond a (by simp [read])

theorem gives_any (shape : Shape α) : shape.Gives fun _ => True := fun _ _ _ _ _ _ => trivial

theorem Gives.mono {shape : Shape α} {Q R : α → Prop} (h : shape.Gives R) (weaker : ∀ a, R a → Q a) :
    shape.Gives Q := fun o i r a standard read => weaker a (h o i r a standard read)

section
variable {decode : Decoder α} {encode : α → Json} {valid : α → Prop} [law : Lossless decode encode valid]
include law

theorem nullable_keeps (o : Origin) (v : Json) (value : Option α) (standard : v.standard = true)
    (read : Decode.nullable decode o v = .ok value) : ∀ a ∈ value, valid a := by
  rintro a ⟨⟩
  unfold Decode.nullable at read
  split at read
  · cases read
  · cases value : decode o v with
    | error e => rw [value] at read; cases read
    | ok b =>
      rw [value] at read
      cases read
      exact law.keeps o v a standard value

theorem gives_optional (key : String) :
    (optional key decode).Gives fun value => ∀ a ∈ value, valid a :=
  gives_field nullable_keeps (by simp) (by simp)

end

theorem of_settle_eq_ok {expected : String} {shape : Shape α} {x : Except Fault α} {a : α}
    (h : settle expected shape x = .ok a) : x = .ok a := by
  unfold settle at h
  split at h
  · rename_i b
    rw [Except.ok.inj h]
  · cases h
  · exact nomatch h

theorem Gives.decodeKeyed {shape : Shape α} {Q : α → Prop} (h : shape.Gives Q) {expected : String}
    {o : Origin} {fields : Dict Json} {a : α} (standard : standardEntries fields = true)
    (read : Shape.decodeKeyed expected shape o fields = .ok a) : Q a :=
  h o 0 (.keyed fields) a standard (of_settle_eq_ok read)

theorem Gives.decode {shape : Shape α} {Q : α → Prop} (h : shape.Gives Q) {name : String}
    {o : Origin} {v : Json} {a : α} (standard : v.standard = true)
    (read : Shape.decode name shape o v = .ok a) : Q a := by
  cases v with
  | object fields => exact h.decodeKeyed standard read
  | array items =>
    obtain ⟨b, checked, kept⟩ := bind_eq_ok.1 read
    have given := h o 0 (.positional items) b standard (of_settle_eq_ok checked)
    split at kept
    · cases kept
      exact given
    · cases kept
  | null | bool | int | float | string => exact nomatch read

end Shape

end DesignMarkup.Json
