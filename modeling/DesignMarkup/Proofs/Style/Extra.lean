import DesignMarkup.Proofs.Style.Normal
/-!
The other keys of a style. Whatever is done to a style, they stay apart from the keys of the facets, so
that the declarations show every facet and every other key under its own name. What a facet takes when a
style is read is just what cannot be set as another key.
-/
namespace DesignMarkup
open Json Decode Shape

section
variable {α : Type} {P : Prop} {shape : Shape α} {keys : List String} {a : α}
  {write : α → List (String × Json)}

def reread (shape : Shape α) (write : α → List (String × Json)) (fields : Dict Json) :
    Except Refusal (List (String × Json)) :=
  write <$> Style.facet shape fields

theorem reread_keys {P : α → Prop} (recovers : ∀ a, shape.Recovers (P a) keys (write a) a)
    {fields : Dict Json} {held : List (String × Json)} (read : reread shape write fields = .ok held) :
    held.map Prod.fst ⊆ keys := by
  obtain ⟨a, _, rfl⟩ := map_eq_ok.1 read
  obtain ⟨slots, rfl, written, _⟩ := recovers a .direct 0
  rw [← written]
  exact Slot.keys_entries slots

theorem reread_written (recovers : shape.Recovers P keys (write a) a) (p : P) (distinct : keys.Nodup) :
    reread shape write (write a) = .ok (write a) := by
  obtain ⟨slots, rfl, written, reads⟩ := recovers.decodeKeyed Style.name .buffered
  have holds : Holds (write a) slots := by
    rw [← written, ← List.append_nil (Slot.entries slots)]
    exact holds_entries distinct fun _ _ => List.not_mem_nil
  obtain ⟨b, read, same⟩ := reads (write a) holds
  rw [same p] at read
  rw [reread, Style.facet, read]
  rfl

end

namespace Facet
variable {f : Facet} {key : String}

theorem keys_nodup (f : Facet) : f.keys.Nodup := (List.nodup_flatMap.1 allKeys_nodup).1 f f.mem_all

/-- No key has two owners. -/
theorem eq_of_mem_keys {g : Facet} (own : key ∈ f.keys) (other : key ∈ g.keys) : f = g := by
  by_contra differ
  have : Std.Symm (Function.onFun List.Disjoint keys) := ⟨fun _ _ => List.Disjoint.symm⟩
  have apart := (List.nodup_flatMap.1 allKeys_nodup).2
  exact apart.forall f.mem_all g.mem_all differ own other

def read (f : Facet) (fields : Dict Json) : Except Refusal (List (String × Json)) :=
  match f with
  | layout => reread LayoutStyle.shape LayoutStyle.entries fields
  | box => reread BoxStyle.shape BoxStyle.entries fields
  | text => reread TextStyle.shape TextStyle.entries fields
  | flex => reread FlexStyle.shape FlexStyle.entries fields
  | visibility => reread VisibilityStyle.shape VisibilityStyle.entries fields
  | transform => reread TransformStyle.shape TransformStyle.entries fields
  | shadow => reread ShadowStyle.shape ShadowStyle.entries fields
  | filter => reread FilterStyle.shape FilterStyle.entries fields

/-- The facet reads the key: it holds all of some fields with it, as they are. -/
def Takes (f : Facet) (key : String) : Prop :=
  ∃ fields, key ∈ Dict.keys fields ∧ f.read fields = .ok fields

theorem read_keys {fields : Dict Json} {held : List (String × Json)}
    (read : f.read fields = .ok held) : held.map Prod.fst ⊆ f.keys := by
  cases f with
  | layout => exact reread_keys LayoutStyle.recovers read
  | box => exact reread_keys BoxStyle.recovers read
  | text => exact reread_keys TextStyle.recovers read
  | flex => exact reread_keys FlexStyle.recovers read
  | visibility => exact reread_keys VisibilityStyle.recovers read
  | transform => exact reread_keys (TransformStyle.recovers (P := True)) read
  | shadow => exact reread_keys (ShadowStyle.recovers (P := True)) read
  | filter => exact reread_keys (FilterStyle.recovers (P := True)) read

end Facet

/-! Facets with a value in every slot. -/

def LayoutStyle.filled : LayoutStyle := ⟨some .flex, some .relative, some 0, some 0, some 0, some 0⟩

def BoxStyle.filled : BoxStyle :=
  ⟨some .borderBox, some 0, some 0, some 0, some 0, some 0, some 0, some 0, some 0, some 0, some 0,
    some 0, some 0, some 0, some 0, some 0, some 0, some 0, some 0, some "", some "", some "", some "",
    some .solid, some 0, some "", some .solid, some (.px 0), some (.px 0), some (.px 0), some (.px 0),
    some "", some "", some "", some "", some "", some .repeated, some .text, some .text, some "",
    some .hidden, some .hidden⟩

def TextStyle.filled : TextStyle :=
  ⟨some 0, some "", some 0, some .italic, some .normal, some .ellipsis, some 0, some .nowrap, some .top,
    some .left, some .uppercase, some .underline, some "", some 0, some .vertical⟩

def FlexStyle.filled : FlexStyle :=
  ⟨some 0, some 0, some 0, some .row, some .wrap, some .center, some .center, some .auto, some .center,
    some 0, some 0⟩

namespace Facet
variable {f : Facet} {key : String}

theorem read_filled (f : Facet) : ∃ fields, Dict.keys fields = f.keys ∧ f.read fields = .ok fields := by
  have distinct := f.keys_nodup
  cases f with
  | layout =>
    have finite : Finite LayoutStyle.filled.numbers := List.all_eq_true.1 (by decide)
    exact ⟨LayoutStyle.filled.entries, rfl, reread_written (LayoutStyle.recovers _) finite distinct⟩
  | box =>
    have finite : Finite BoxStyle.filled.numbers := List.all_eq_true.1 (by decide)
    exact ⟨BoxStyle.filled.entries, rfl, reread_written (BoxStyle.recovers _) finite distinct⟩
  | text =>
    have finite : Finite TextStyle.filled.numbers := List.all_eq_true.1 (by decide)
    exact ⟨TextStyle.filled.entries, rfl, reread_written (TextStyle.recovers _) finite distinct⟩
  | flex =>
    have finite : Finite FlexStyle.filled.numbers := List.all_eq_true.1 (by decide)
    exact ⟨FlexStyle.filled.entries, rfl, reread_written (FlexStyle.recovers _) finite distinct⟩
  | visibility =>
    let filled : VisibilityStyle := ⟨some 0, some 0⟩
    have finite : Finite filled.numbers := List.all_eq_true.1 (by decide)
    exact ⟨filled.entries, rfl, reread_written filled.recovers finite distinct⟩
  | transform =>
    let filled : TransformStyle := ⟨some ""⟩
    exact ⟨filled.entries, rfl, reread_written filled.recovers trivial distinct⟩
  | shadow =>
    let filled : ShadowStyle := ⟨some ""⟩
    exact ⟨filled.entries, rfl, reread_written filled.recovers trivial distinct⟩
  | filter =>
    let filled : FilterStyle := ⟨some "", some ""⟩
    exact ⟨filled.entries, rfl, reread_written filled.recovers trivial distinct⟩

theorem takes_iff : f.Takes key ↔ key ∈ f.keys := by
  constructor
  · rintro ⟨fields, member, read⟩
    exact read_keys read member
  · intro own
    obtain ⟨fields, keys, read⟩ := f.read_filled
    exact ⟨fields, keys ▸ own, read⟩

end Facet

theorem facetOf?_eq_some {key : String} {f : Facet} : facetOf? key = some f ↔ key ∈ f.keys := by
  constructor
  · intro found
    simpa using List.find?_some found
  · intro own
    cases found : facetOf? key with
    | none =>
      rw [facetOf?_eq_none] at found
      exact absurd (List.mem_flatMap.2 ⟨f, f.mem_all, own⟩) found
    | some g =>
      have other : key ∈ g.keys := by simpa using List.find?_some found
      rw [Facet.eq_of_mem_keys other own]

namespace Style
variable {s : Style} {key : String} {o : Origin} {fields : Dict Json}

inductive Edit where
  | insert (key : String) (value : Json)
  /-- Gives the facets other values. -/
  | assign (facets : Style)
  | prune
  | normalizeBackground

def edit (s : Style) : Edit → Style
  | .insert key value => (s.insertExtra key value).toOption.getD s
  | .assign facets => { facets with extra := s.extra }
  | .prune => s.prune
  | .normalizeBackground => s.normalizeBackground.1

/-- Styles that come from the empty style, or from one that was read, by changes. Keys ascend in all
objects that are read. -/
inductive Reached : Style → Prop
  | empty : Reached {}
  | read {o : Origin} {fields : Dict Json} {s : Style} (sorted : Dict.Sorted fields)
    (read : decode o (.object fields) = .ok s) : Reached s
  | edit {s : Style} (e : Edit) (before : Reached s) : Reached (s.edit e)

structure Orderly (s : Style) : Prop where
  separate : s.Separate
  sorted : Dict.Sorted s.extra

theorem insertExtra_eq_ok {value : Json} {t : Style} (inserted : s.insertExtra key value = .ok t) :
    facetOf? key = none ∧ t = { s with extra := s.extra.insert key value } := by
  unfold insertExtra at inserted
  split at inserted
  · cases inserted
  · split at inserted
    · cases inserted
    · rename_i free
      exact ⟨free, (Except.ok.inj inserted).symm⟩

theorem insertExtra_eq_error {value : Json} {fault : StyleKeyFault} (filled : key ≠ "") :
    s.insertExtra key value = .error fault ↔ ∃ f : Facet, f.Takes key ∧ fault = .reserved key f := by
  simp only [Facet.takes_iff, ← facetOf?_eq_some]
  unfold insertExtra
  rw [if_neg filled]
  cases facetOf? key with
  | none => simp
  | some f => simp [eq_comm]

theorem edit_refused {value : Json} {fault : StyleKeyFault}
    (refused : s.insertExtra key value = .error fault) : s.edit (.insert key value) = s := by
  rw [edit, refused]
  rfl

theorem Orderly.insertExtra {value : Json} {t : Style} (orderly : s.Orderly)
    (inserted : s.insertExtra key value = .ok t) : t.Orderly := by
  obtain ⟨free, rfl⟩ := insertExtra_eq_ok inserted
  refine ⟨fun entry member => ?_, orderly.sorted.insert key value⟩
  rcases Dict.mem_insert member with rfl | old
  · exact free
  · exact orderly.separate entry old

theorem Orderly.edit (orderly : s.Orderly) (e : Edit) : (s.edit e).Orderly := by
  cases e with
  | insert key value =>
    cases inserted : s.insertExtra key value with
    | error fault =>
      rw [edit_refused inserted]
      exact orderly
    | ok t =>
      rw [Style.edit, inserted]
      exact orderly.insertExtra inserted
  | assign facets => exact ⟨orderly.separate, orderly.sorted⟩
  | prune => exact ⟨orderly.separate, orderly.sorted⟩
  | normalizeBackground => exact ⟨orderly.separate, orderly.sorted⟩

theorem decode_extra (read : decode o (.object fields) = .ok s) :
    s.extra = fields.filter fun entry => (facetOf? entry.1).isNone := by
  rw [decode_object] at read
  simp only [facets, seq_eq_ok, map_eq_ok] at read
  obtain ⟨_, ⟨_, ⟨_, ⟨_, ⟨_, ⟨_, ⟨_, ⟨_, ⟨_, _, rfl⟩, _, _, rfl⟩, _, _, rfl⟩, _, _, rfl⟩, _, _, rfl⟩,
    _, _, rfl⟩, _, _, rfl⟩, _, _, rfl⟩, _, other, rfl⟩ := read
  cases other
  rfl

theorem mem_extra_iff (read : decode o (.object fields) = .ok s) {entry : String × Json} :
    entry ∈ s.extra ↔ entry ∈ fields ∧ ∀ f : Facet, ¬ f.Takes entry.1 := by
  rw [decode_extra read, List.mem_filter, Option.isNone_iff_eq_none, Option.eq_none_iff_forall_ne_some]
  simp only [Facet.takes_iff, ← facetOf?_eq_some, ne_eq]

theorem orderly_of_decode (sorted : Dict.Sorted fields) (read : decode o (.object fields) = .ok s) :
    s.Orderly := by
  have left := decode_extra read
  refine ⟨fun entry member => ?_, ?_⟩
  · rw [left] at member
    simpa using (List.mem_filter.1 member).2
  · rw [left]
    exact List.Pairwise.sublist (List.filter_sublist.map Prod.fst) sorted

theorem Reached.orderly (reached : s.Reached) : s.Orderly := by
  induction reached with
  | empty => exact ⟨nofun, List.Pairwise.nil⟩
  | read sorted read => exact orderly_of_decode sorted read
  | edit e _ before => exact before.edit e

def facetEntries (s : Style) : List (String × Json) :=
  s.layout.entries ++ s.box.entries ++ s.text.entries ++ s.flex.entries ++ s.visibility.entries ++
    s.transform.entries ++ s.shadow.entries ++ s.filter.entries

theorem Orderly.entries_nodup (orderly : s.Orderly) : (Dict.keys s.entries).Nodup := by
  obtain ⟨slots, owned, whole, -, -⟩ := entries_hold orderly.separate
  rw [whole, Dict.keys, List.map_append, List.nodup_append]
  refine ⟨Slot.nodup_entries (owned ▸ Facet.allKeys_nodup), orderly.sorted.keys_nodup, ?_⟩
  rintro key own _ other rfl
  obtain ⟨entry, member, rfl⟩ := List.mem_map.1 other
  exact facetOf?_eq_none.1 (orderly.separate entry member) (owned ▸ Slot.keys_entries slots own)

theorem Orderly.declarations_perm (orderly : s.Orderly) :
    s.declarations.Perm (s.facetEntries ++ s.extra) :=
  Dict.ofList_perm orderly.entries_nodup

theorem Orderly.get?_declarations (orderly : s.Orderly) {value : Json} :
    s.declarations.get? key = some value ↔ (key, value) ∈ s.facetEntries ++ s.extra := by
  rw [← orderly.declarations_perm.mem_iff]
  constructor
  · exact Dict.mem_of_get?
  · exact Dict.get?_of_mem (Dict.ofList_sorted s.entries)

theorem Orderly.declarations_extra (orderly : s.Orderly) :
    List.filter (fun entry => (facetOf? entry.1).isNone) s.declarations = s.extra := by
  obtain ⟨slots, owned, whole, -, -⟩ := entries_hold orderly.separate
  have same := orderly.declarations_perm.filter fun entry => (facetOf? entry.1).isNone
  have left := extra_of_written owned orderly.separate
  rw [← whole] at left
  rw [show s.facetEntries ++ s.extra = s.entries from rfl, left] at same
  have sorted : Dict.Sorted s.declarations := Dict.ofList_sorted s.entries
  refine same.eq_of_pairwise (fun a b _ _ below above => ?_)
    (List.Pairwise.filter _ (List.pairwise_map.1 sorted)) (List.pairwise_map.1 orderly.sorted)
  exact absurd below (String.lt_asymm above)

theorem Orderly.decode_declarations (orderly : s.Orderly) (finite : Finite s.numbers) (o : Origin) :
    decode o (.object s.declarations) = .ok s := by
  obtain ⟨slots, owned, -, holds, reads⟩ := entries_hold orderly.separate
  have shown : Holds s.declarations slots := by
    intro slot member
    rw [← holds slot member, declarations, Dict.ofList, Dict.get?_insertions orderly.entries_nodup]
    exact Option.or_none
  obtain ⟨facets, read, same⟩ := reads s.declarations shown
  rw [decode_object, read, orderly.declarations_extra, same finite]
  rfl

end Style

/-- Changes keep the other keys of a style apart from the keys of the facets. So the declarations are the
set properties of the facets and the other keys, each under its own key and none in the place of another,
and the style is read back from them. A key cannot be set as another key just if a facet takes it from
what is read, which leaves everything else to the other keys; a refusal changes nothing. -/
theorem extra_never_shadows {s : Style} (reached : s.Reached) :
    (∀ key ∈ Dict.keys s.extra, ∀ f : Facet, key ∉ f.keys) ∧
    (∀ key value, s.declarations.get? key = some value ↔
      (key, value) ∈ s.facetEntries ∨ (key, value) ∈ s.extra) ∧
    s.declarations.length = s.facetEntries.length + s.extra.length ∧
    (Finite s.numbers → ∀ o, Style.decode o (.object s.declarations) = .ok s) ∧
    (∀ key value fault, key ≠ "" → (s.insertExtra key value = .error fault ↔
      ∃ f : Facet, f.Takes key ∧ fault = .reserved key f)) ∧
    (∀ o fields t, Style.decode o (.object fields) = .ok t →
      ∀ entry, entry ∈ t.extra ↔ entry ∈ fields ∧ ∀ f : Facet, ¬ f.Takes entry.1) ∧
    ∀ key value fault, s.insertExtra key value = .error fault → s.edit (.insert key value) = s := by
  have orderly := reached.orderly
  refine ⟨?_, ?_, ?_, orderly.decode_declarations, ?_, ?_, ?_⟩
  · intro key member f own
    obtain ⟨entry, other, rfl⟩ := List.mem_map.1 member
    have free := orderly.separate entry other
    rw [facetOf?_eq_some.2 own] at free
    cases free
  · intro key value
    rw [orderly.get?_declarations, List.mem_append]
  · rw [orderly.declarations_perm.length_eq, List.length_append]
  · intro key value fault filled
    exact Style.insertExtra_eq_error filled
  · intro o fields t read entry
    exact Style.mem_extra_iff read
  · intro key value fault refused
    exact Style.edit_refused refused

def pointerStyle : Style :=
  { box := { width := some 10.0 }, extra := [("cursor", .string "pointer")] }

def spacedStyle : Style :=
  { pointerStyle with extra := [("cursor", .string "pointer"), ("gap", .string "4px")] }

theorem spaced_style_shows_all :
    spacedStyle.Reached ∧ spacedStyle.declarations.get? "cursor" = some (.string "pointer") ∧
      spacedStyle.declarations.get? "gap" = some (.string "4px") ∧
      spacedStyle.declarations.get? "width" = some (.float 10.0) ∧
      spacedStyle.declarations.length = 3 ∧
      spacedStyle.insertExtra "width" .null = .error (.reserved "width" .box) := by
  have sorted : Dict.Sorted [("cursor", Json.string "pointer"), ("width", Json.float 10.0)] := by
    unfold Dict.Sorted
    decide
  have start : pointerStyle.Reached := .read (o := .direct) sorted rfl
  have added : Dict.insert pointerStyle.extra "gap" (.string "4px") = spacedStyle.extra := by
    rw [pointerStyle, Dict.insert, if_neg (by decide), if_neg (by decide)]
    rfl
  have inserted : pointerStyle.edit (.insert "gap" (.string "4px")) = spacedStyle := by
    rw [Style.edit, Style.insertExtra, if_neg (by decide), facetOf?_eq_none.2 (by decide), added]
    rfl
  have reached : spacedStyle.Reached := inserted ▸ start.edit (.insert "gap" (.string "4px"))
  obtain ⟨_, shown, size, _, refused, _, _⟩ := extra_never_shadows reached
  have width : Facet.box.Takes "width" := Facet.takes_iff.2 (by decide)
  refine ⟨reached, ?_, ?_, ?_, size, ?_⟩
  · exact (shown _ _).2 (.inr List.mem_cons_self)
  · exact (shown _ _).2 (.inr (List.mem_cons_of_mem _ List.mem_cons_self))
  · exact (shown _ _).2 (.inl List.mem_cons_self)
  · exact (refused _ _ _ (by decide)).2 ⟨.box, width, rfl⟩

end DesignMarkup
