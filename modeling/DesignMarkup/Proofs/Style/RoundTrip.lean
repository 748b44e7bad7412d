import DesignMarkup.Proofs.Decimal.Whole
import DesignMarkup.Proofs.Json.Record
import DesignMarkup.Proofs.Lists
import DesignMarkup.Style.Codec
import Mathlib.Data.List.ReduceOption
/-!
Styles are read back as they were written, if their numbers are finite; an infinite number is
written as `null`, which is read as no number.
-/
namespace DesignMarkup
open Json Decode Shape

class LawfulKeyword (α : Type) [Keyword α] [DecidableEq α] : Prop where
  ofText?_text : ∀ a : α, Keyword.ofText? (Keyword.text a) = some a

instance : LawfulKeyword Display := ⟨fun a => by cases a <;> rfl⟩
instance : LawfulKeyword Position := ⟨fun a => by cases a <;> rfl⟩
instance : LawfulKeyword BoxSizing := ⟨fun a => by cases a <;> rfl⟩
instance : LawfulKeyword LineStyle := ⟨fun a => by cases a <;> rfl⟩
instance : LawfulKeyword BackgroundRepeat := ⟨fun a => by cases a <;> rfl⟩
instance : LawfulKeyword BackgroundClip := ⟨fun .text => rfl⟩
instance : LawfulKeyword Overflow := ⟨fun a => by cases a <;> rfl⟩
instance : LawfulKeyword FontStyle := ⟨fun a => by cases a <;> rfl⟩
instance : LawfulKeyword TextOverflow := ⟨fun .ellipsis => rfl⟩
instance : LawfulKeyword WhiteSpace := ⟨fun a => by cases a <;> rfl⟩
instance : LawfulKeyword VerticalAlign := ⟨fun a => by cases a <;> rfl⟩
instance : LawfulKeyword TextAlign := ⟨fun a => by cases a <;> rfl⟩
instance : LawfulKeyword TextTransform := ⟨fun a => by cases a <;> rfl⟩
instance : LawfulKeyword TextDecoration := ⟨fun a => by cases a <;> rfl⟩
instance : LawfulKeyword BoxOrient := ⟨fun .vertical => rfl⟩
instance : LawfulKeyword FlexDirection := ⟨fun a => by cases a <;> rfl⟩
instance : LawfulKeyword FlexWrap := ⟨fun a => by cases a <;> rfl⟩
instance : LawfulKeyword JustifyContent := ⟨fun a => by cases a <;> rfl⟩
instance : LawfulKeyword AlignItems := ⟨fun a => by cases a <;> rfl⟩
instance : LawfulKeyword AlignSelf := ⟨fun a => by cases a <;> rfl⟩
instance : LawfulKeyword AlignContent := ⟨fun a => by cases a <;> rfl⟩

instance lossless_keyword {α : Type} [Keyword α] [DecidableEq α] [law : LawfulKeyword α] :
    Lossless (Keyword.decode (α := α)) Keyword.encode fun _ => True where
  reads o a _ := by
    have found : Keyword.names.lookup (Keyword.text a) = some a := law.ofText?_text a
    cases o <;> simp only [Keyword.decode, Keyword.encode, keyword, nameOf, found]
  writes a _ := by simp [Keyword.encode]
  keeps _ _ _ _ _ := trivial

instance lossless_string : Lossless string .string fun _ => True where
  reads _ _ _ := rfl
  writes _ _ := by simp
  keeps _ _ _ _ _ := trivial

theorem number_eq {x : Float} (h : number x ≠ .null) : number x = .float x := by
  unfold number at h ⊢
  split at h
  · rename_i finite
    rw [if_pos finite]
  · exact absurd rfl h

theorem number_ne_null {x : Float} (finite : x.isFinite = true) : number x ≠ .null := by
  simp [number, finite]

theorem float_isFinite {o : Origin} {v : Json} {x : Float} (standard : v.standard = true)
    (read : float o v = .ok x) : x.isFinite = true := by
  cases v with
  | int n =>
    cases read
    exact Decimal.ofInt_isFinite standard
  | float y =>
    cases read
    exact standard
  | null | bool | string | array | object => exact nomatch read

instance lossless_float : Lossless float number fun x => x.isFinite = true where
  reads o x written := by rw [number_eq written]; rfl
  writes _ := number_ne_null
  keeps _ _ _ := float_isFinite

instance lossless_count32 : Lossless count32 (fun n => whole n.toNat) fun _ => True where
  reads o n _ := by
    have fits : fitsUnsigned 32 n.toNat = true :=
      fitsUnsigned_iff.2 ⟨by omega, by have := n.toNat_lt; omega⟩
    rw [count32, whole, integer, if_pos fits]
    exact congrArg Except.ok (UInt32.ofNat_toNat)
  writes n _ := by simp [whole]
  keeps _ _ _ _ _ := trivial

instance lossless_int32 : Lossless int32 (fun n => .int n.toInt) fun _ => True where
  reads o n _ := by
    have fits : fitsSigned 32 n.toInt = true := fitsSigned_iff.2 ⟨n.le_toInt, n.toInt_lt⟩
    rw [int32, integer, if_pos fits]
    exact congrArg Except.ok (Int32.ofInt_toInt n)
  writes n _ := by simp
  keeps _ _ _ _ _ := trivial

def Radius.numbers : Radius → List Float
  | .px x => [x]
  | .percent _ => []

def LineHeight.numbers : LineHeight → List Float
  | .px x => [x]
  | .normal => []

instance lossless_radius :
    Lossless Radius.decode Radius.encode fun r => ∀ x ∈ r.numbers, x.isFinite = true where
  reads o r written := by
    cases r with
    | px x =>
      rw [Radius.encode] at written ⊢
      rw [number_eq written]
      rfl
    | percent text => rfl
  writes r finite := by
    cases r with
    | px x => exact number_ne_null (finite x (by simp [Radius.numbers]))
    | percent text => simp [Radius.encode]
  keeps o v r standard read := by
    unfold Radius.decode at read
    split at read
    · cases read
      simp [Radius.numbers]
    · split at read
      · rename_i x number
        cases read
        simpa [Radius.numbers] using float_isFinite standard number
      · exact nomatch read

theorem lookup_of_nameOf {α : Type} {known : List (String × α)} {name : String} {a : α}
    (found : nameOf known name = .ok a) : known.lookup name = some a := by
  unfold nameOf at found
  split at found
  · rename_i b looked
    rw [looked, Except.ok.inj found]
  · cases found

theorem mem_of_keyword {α : Type} {known : List (String × α)} {o : Origin} {v : Json} {a : α}
    (read : keyword known o v = .ok a) : a ∈ known.map Prod.snd := by
  unfold keyword at read
  split at read
  · exact mem_of_lookup (lookup_of_nameOf read)
  · rename_i name payload
    cases named : nameOf known name with
    | error e => rw [named] at read; exact nomatch read
    | ok b =>
      rw [named] at read
      cases empty : emptyPayload o payload with
      | error e => simp [empty, bind, Except.bind] at read
      | ok =>
        simp only [empty, bind, Except.bind, pure, Except.pure, Except.ok.injEq] at read
        exact read ▸ mem_of_lookup (lookup_of_nameOf named)
  · exact nomatch read
  · exact nomatch read

instance lossless_lineHeight :
    Lossless LineHeight.decode LineHeight.encode fun h => ∀ x ∈ h.numbers, x.isFinite = true where
  reads o h written := by
    cases h with
    | px x =>
      rw [LineHeight.encode] at written ⊢
      rw [number_eq written]
      rfl
    | normal => rfl
  writes h finite := by
    cases h with
    | px x => exact number_ne_null (finite x (by simp [LineHeight.numbers]))
    | normal => simp [LineHeight.encode]
  keeps o v h standard read := by
    unfold LineHeight.decode at read
    split at read
    · rename_i x _ number
      cases read
      simpa [LineHeight.numbers] using float_isFinite standard number
    · rename_i named _
      cases read
      have normal := mem_of_keyword named
      obtain rfl : h = .normal := by simpa using normal
      simp [LineHeight.numbers]
    · exact nomatch read

def Finite (numbers : List Float) : Prop := ∀ x ∈ numbers, x.isFinite = true

theorem finite_append {xs ys : List Float} : Finite (xs ++ ys) ↔ Finite xs ∧ Finite ys :=
  List.forall_mem_append

theorem finite_reduceOption {slots : List (Option Float)} :
    Finite slots.reduceOption ↔ ∀ slot ∈ slots, ∀ x ∈ slot, x.isFinite = true := by
  simp only [Finite, List.reduceOption_mem_iff]
  exact ⟨fun h slot member x here => h x (here ▸ member), fun h x member => h _ member x rfl⟩

theorem finite_flatMap {α : Type} {numbers : α → List Float} {slots : List (Option α)} :
    Finite (slots.reduceOption.flatMap numbers) ↔
      ∀ slot ∈ slots, ∀ a ∈ slot, ∀ x ∈ numbers a, x.isFinite = true := by
  simp only [Finite, List.mem_flatMap, List.reduceOption_mem_iff]
  exact ⟨fun h slot member a here x below => h x ⟨a, here ▸ member, below⟩,
    fun h x ⟨a, member, below⟩ => h _ member a rfl x below⟩

section
variable {P : Prop} (key : String)

theorem recovers_float {slots : List (Option Float)} (finite : P → Finite slots.reduceOption)
    (i : Fin slots.length) :
    (optional key float).Recovers P [key] ( entry? key ((slots.get i).map number)) (slots.get i) :=
  recovers_optional fun p => finite_reduceOption.1 (finite p) _ (List.get_mem ..)

theorem recovers_form {α : Type} (decode : Decoder α) {encode : α → Json} {numbers : α → List Float}
    [Lossless decode encode fun a => ∀ x ∈ numbers a, x.isFinite = true] {slots : List (Option α)}
    (finite : P → Finite (slots.reduceOption.flatMap numbers)) (i : Fin slots.length) :
    (optional key decode).Recovers P [key] ( entry? key ((slots.get i).map encode)) (slots.get i) :=
  recovers_optional fun p => finite_flatMap.1 (finite p) _ (List.get_mem ..)

end

namespace LayoutStyle

def numbers (s : LayoutStyle) : List Float := [s.top, s.right, s.bottom, s.left].reduceOption

theorem recovers (s : LayoutStyle) :
    shape.Recovers (Finite s.numbers) Facet.layout.keys s.entries s := by
  have px {key : String} (i : Fin 4) := recovers_float key (fun h : Finite s.numbers => h) i
  exact recovers_any.map mk |>.seq recovers_any |>.seq (px 0) |>.seq (px 1) |>.seq (px 2)
    |>.seq (px 3)

theorem gives : shape.Gives fun s => Finite s.numbers := by
  iterate 5 refine Gives.seq (gives_optional _) ?_
  refine Gives.map ((gives_any _).mono ?_)
  intros
  simp only [numbers, finite_reduceOption, List.forall_mem_cons, List.not_mem_nil, false_implies,
    implies_true, and_true]
  and_intros <;> assumption

end LayoutStyle

namespace BoxStyle

def lengths (s : BoxStyle) : List (Option Float) :=
  [s.width, s.height, s.minWidth, s.minHeight, s.maxHeight, s.maxWidth, s.paddingTop,
    s.paddingRight, s.paddingBottom, s.paddingLeft, s.marginTop, s.marginRight, s.marginBottom,
    s.marginLeft, s.borderTopWidth, s.borderRightWidth, s.borderLeftWidth, s.borderBottomWidth,
    s.outlineWidth]

def radii (s : BoxStyle) : List (Option Radius) :=
  [s.borderTopLeftRadius, s.borderTopRightRadius, s.borderBottomLeftRadius,
    s.borderBottomRightRadius]

def numbers (s : BoxStyle) : List Float :=
  s.lengths.reduceOption ++ s.radii.reduceOption.flatMap Radius.numbers

theorem recovers (s : BoxStyle) :
    shape.Recovers (Finite s.numbers) Facet.box.keys s.entries s := by
  have split : Finite s.numbers ↔ Finite s.lengths.reduceOption ∧
      Finite (s.radii.reduceOption.flatMap Radius.numbers) := finite_append
  have px {key : String} (i : Fin 19) :=
    recovers_float key (fun h : Finite s.numbers => (split.1 h).1) i
  have corner {key : String} (i : Fin 4) :=
    recovers_form key Radius.decode (fun h : Finite s.numbers => (split.1 h).2) i
  exact recovers_any.map mk |>.seq (px 0) |>.seq (px 1) |>.seq (px 2) |>.seq (px 3) |>.seq (px 4)
    |>.seq (px 5) |>.seq (px 6) |>.seq (px 7) |>.seq (px 8) |>.seq (px 9) |>.seq (px 10)
    |>.seq (px 11) |>.seq (px 12) |>.seq (px 13) |>.seq (px 14) |>.seq (px 15) |>.seq (px 16)
    |>.seq (px 17) |>.seq recovers_any |>.seq recovers_any |>.seq recovers_any |>.seq recovers_any
    |>.seq recovers_any |>.seq (px 18) |>.seq recovers_any |>.seq recovers_any |>.seq (corner 0)
    |>.seq (corner 1) |>.seq (corner 2) |>.seq (corner 3) |>.seq recovers_any |>.seq recovers_any
    |>.seq recovers_any |>.seq recovers_any |>.seq recovers_any |>.seq recovers_any
    |>.seq recovers_any |>.seq recovers_any |>.seq recovers_any |>.seq recovers_any
    |>.seq recovers_any

theorem gives : shape.Gives fun s => Finite s.numbers := by
  iterate 41 refine Gives.seq (gives_optional _) ?_
  refine Gives.map ((gives_any _).mono ?_)
  intros
  simp only [numbers, lengths, radii, finite_append, finite_reduceOption, finite_flatMap,
    List.forall_mem_cons, List.not_mem_nil, false_implies, implies_true, and_true]
  and_intros <;> assumption

end BoxStyle

namespace TextStyle

def numbers (s : TextStyle) : List Float :=
  [s.fontSize, s.fontWeight, s.letterSpacing].reduceOption ++
    [s.lineHeight].reduceOption.flatMap LineHeight.numbers

theorem recovers (s : TextStyle) :
    shape.Recovers (Finite s.numbers) Facet.text.keys s.entries s := by
  have px {key : String} (i : Fin 3) :=
    recovers_float key (fun h : Finite s.numbers => (finite_append.1 h).1) i
  have line {key : String} :=
    recovers_form key LineHeight.decode (fun h : Finite s.numbers => (finite_append.1 h).2) 0
  exact (px 0).map mk |>.seq recovers_any |>.seq (px 1) |>.seq recovers_any |>.seq line
    |>.seq recovers_any |>.seq (px 2) |>.seq recovers_any |>.seq recovers_any |>.seq recovers_any
    |>.seq recovers_any |>.seq recovers_any |>.seq recovers_any |>.seq recovers_any
    |>.seq recovers_any

theorem gives : shape.Gives fun s => Finite s.numbers := by
  iterate 14 refine Gives.seq (gives_optional _) ?_
  refine Gives.map ((gives_optional _).mono ?_)
  intros
  simp only [numbers, finite_append, finite_reduceOption, finite_flatMap, List.forall_mem_cons,
    List.not_mem_nil, false_implies, implies_true, and_true]
  and_intros <;> assumption

end TextStyle

namespace FlexStyle

def numbers (s : FlexStyle) : List Float :=
  [s.flexGrow, s.flexShrink, s.flexBasis, s.columnGap, s.rowGap].reduceOption

theorem recovers (s : FlexStyle) :
    shape.Recovers (Finite s.numbers) Facet.flex.keys s.entries s := by
  have px {key : String} (i : Fin 5) := recovers_float key (fun h : Finite s.numbers => h) i
  exact (px 0).map mk |>.seq (px 1) |>.seq (px 2) |>.seq recovers_any |>.seq recovers_any
    |>.seq recovers_any |>.seq recovers_any |>.seq recovers_any |>.seq recovers_any |>.seq (px 3)
    |>.seq (px 4)

theorem gives : shape.Gives fun s => Finite s.numbers := by
  iterate 10 refine Gives.seq (gives_optional _) ?_
  refine Gives.map ((gives_optional _).mono ?_)
  intros
  simp only [numbers, finite_reduceOption, List.forall_mem_cons, List.not_mem_nil, false_implies,
    implies_true, and_true]
  and_intros <;> assumption

end FlexStyle

namespace VisibilityStyle

def numbers (s : VisibilityStyle) : List Float := [s.opacity].reduceOption

theorem recovers (s : VisibilityStyle) :
    shape.Recovers (Finite s.numbers) Facet.visibility.keys s.entries s := by
  have px {key : String} (i : Fin 1) := recovers_float key (fun h : Finite s.numbers => h) i
  exact (px 0).map mk |>.seq recovers_any

theorem gives : shape.Gives fun s => Finite s.numbers := by
  refine Gives.seq (gives_optional _) ?_
  refine Gives.map ((gives_optional _).mono ?_)
  intros
  simp only [numbers, finite_reduceOption, List.forall_mem_cons, List.not_mem_nil, false_implies,
    implies_true, and_true]
  assumption

end VisibilityStyle

theorem TransformStyle.recovers {P : Prop} (s : TransformStyle) :
    shape.Recovers P Facet.transform.keys s.entries s := recovers_any.map mk

theorem ShadowStyle.recovers {P : Prop} (s : ShadowStyle) :
    shape.Recovers P Facet.shadow.keys s.entries s := recovers_any.map mk

theorem FilterStyle.recovers {P : Prop} (s : FilterStyle) :
    shape.Recovers P Facet.filter.keys s.entries s := recovers_any.map mk |>.seq recovers_any

def Facet.allKeys : List String := all.flatMap keys

theorem Facet.allKeys_nodup : allKeys.Nodup := by simp [allKeys, all, keys]

theorem Facet.mem_all (f : Facet) : f ∈ all := by cases f <;> decide

theorem facetOf?_eq_none {key : String} : facetOf? key = none ↔ key ∉ Facet.allKeys := by
  simp [facetOf?, Facet.allKeys, Facet.mem_all]

namespace Style

def numbers (s : Style) : List Float :=
  s.layout.numbers ++ s.box.numbers ++ s.text.numbers ++ s.flex.numbers ++ s.visibility.numbers

def Separate (s : Style) : Prop := ∀ entry ∈ s.extra, facetOf? entry.1 = none

theorem finite_numbers {s : Style} :
    Finite s.numbers ↔ Finite s.layout.numbers ∧ Finite s.box.numbers ∧ Finite s.text.numbers ∧
      Finite s.flex.numbers ∧ Finite s.visibility.numbers := by
  simp only [numbers, finite_append, and_assoc]

theorem extra_of_written {slots : List Slot} {extra : List (String × Json)}
    (owned : slots.map Prod.fst = Facet.allKeys) (separate : ∀ entry ∈ extra, facetOf? entry.1 = none) :
    (Slot.entries slots ++ extra).filter (fun entry => (facetOf? entry.1).isNone) = extra := by
  have none : (Slot.entries slots).filter (fun entry => (facetOf? entry.1).isNone) = [] := by
    refine List.filter_eq_nil_iff.2 fun entry member => ?_
    have key := Slot.keys_entries slots (List.mem_map_of_mem member)
    simpa [facetOf?_eq_none, owned] using key
  have all : extra.filter (fun entry => (facetOf? entry.1).isNone) = extra :=
    List.filter_eq_self.2 fun entry member => by simp [separate entry member]
  rw [List.filter_append, none, all, List.nil_append]

def facets (fields : Dict Json) : Except Refusal (Dict Json → Style) :=
  mk <$> facet LayoutStyle.shape fields <*> facet BoxStyle.shape fields <*>
    facet TextStyle.shape fields <*> facet FlexStyle.shape fields <*>
    facet VisibilityStyle.shape fields <*> facet TransformStyle.shape fields <*>
    facet ShadowStyle.shape fields <*> facet FilterStyle.shape fields

theorem ownKeys_eq : ownKeys = Facet.allKeys := by rfl

theorem ownKeys_contains (key : String) : (!ownKeys.contains key) = (facetOf? key).isNone := by
  rw [Bool.eq_iff_iff, Option.isNone_iff_eq_none, facetOf?_eq_none, ownKeys_eq]
  simp

theorem decode_object (o : Origin) (fields : Dict Json) :
    decode o (.object fields) =
      facets fields <*> pure (List.filter (fun entry => (facetOf? entry.1).isNone) fields) := by
  simp only [decode, ownKeys_contains, facets, seq_eq_bind_map, map_eq_pure_bind, bind_assoc,
    pure_bind]

theorem facet_restores {α : Type} {P Q : Prop} {shape : Shape α} {keys : List String}
    {written : List (String × Json)} {a : α} (h : shape.Recovers Q keys written a)
    (stronger : P → Q) : Restores P (facet shape) keys written a :=
  (h.decodeKeyed name .buffered).mono stronger

theorem map_ok {α β : Type} {read : Dict Json → Except Refusal α} {f : α → β} (fields : Dict Json)
    (a : α) (first : read fields = .ok a) : f <$> read fields = .ok (f a) := by
  rw [first]
  rfl

theorem seq_ok {α β : Type} {read : Dict Json → Except Refusal (α → β)}
    {next : Dict Json → Except Refusal α} (fields : Dict Json) (g : α → β) (a : α)
    (first : read fields = .ok g) (second : next fields = .ok a) :
    (read fields <*> next fields) = .ok (g a) := by
  rw [first, second]
  rfl

theorem facets_restore (s : Style) :
    Restores (Finite s.numbers) facets Facet.allKeys
      (s.layout.entries ++ s.box.entries ++ s.text.entries ++ s.flex.entries ++
        s.visibility.entries ++ s.transform.entries ++ s.shadow.entries ++ s.filter.entries)
      (mk s.layout s.box s.text s.flex s.visibility s.transform s.shadow s.filter) := by
  have finite := fun h : Finite s.numbers => finite_numbers.1 h
  exact facet_restores s.layout.recovers (fun h => (finite h).1) |>.map mk map_ok
    |>.seq (facet_restores s.box.recovers fun h => (finite h).2.1) seq_ok
    |>.seq (facet_restores s.text.recovers fun h => (finite h).2.2.1) seq_ok
    |>.seq (facet_restores s.flex.recovers fun h => (finite h).2.2.2.1) seq_ok
    |>.seq (facet_restores s.visibility.recovers fun h => (finite h).2.2.2.2) seq_ok
    |>.seq (facet_restores s.transform.recovers id) seq_ok
    |>.seq (facet_restores s.shadow.recovers id) seq_ok
    |>.seq (facet_restores s.filter.recovers id) seq_ok

theorem entries_hold {s : Style} (separate : s.Separate) :
    ∃ slots : List Slot, slots.map Prod.fst = Facet.allKeys ∧
      s.entries = Slot.entries slots ++ s.extra ∧ Holds s.entries slots ∧
      ∀ fields, Holds fields slots → ∃ read, facets fields = .ok read ∧
        (Finite s.numbers → read = mk s.layout s.box s.text s.flex s.visibility s.transform s.shadow
          s.filter) := by
  obtain ⟨slots, owned, written, reads⟩ := s.facets_restore
  have whole : s.entries = Slot.entries slots ++ s.extra := by rw [written]; rfl
  refine ⟨slots, owned, whole, ?_, reads⟩
  rw [whole]
  refine holds_entries (owned ▸ Facet.allKeys_nodup) fun key own other => ?_
  obtain ⟨entry, member, rfl⟩ := List.mem_map.1 other
  exact facetOf?_eq_none.1 (separate entry member) (owned ▸ own)

theorem decode_encode {s : Style} (separate : s.Separate) :
    Recovered (Finite s.numbers) decode s.encode s := by
  obtain ⟨slots, owned, whole, holds, reads⟩ := entries_hold separate
  obtain ⟨facets, read, same⟩ := reads s.entries holds
  refine ⟨facets s.extra, fun o => ?_, fun finite => by rw [same finite]⟩
  rw [encode, decode_object, read, whole, extra_of_written owned separate]
  rfl

theorem decode_keeps {o : Origin} {v : Json} {s : Style} (standard : v.standard = true)
    (read : decode o v = .ok s) : Finite s.numbers ∧ s.Separate := by
  cases v with
  | object fields =>
    rw [decode_object] at read
    simp only [facets, seq_eq_ok, map_eq_ok] at read
    obtain ⟨_, ⟨_, ⟨_, ⟨_, ⟨_, ⟨_, ⟨_, ⟨_, ⟨layout, layoutRead, rfl⟩, box, boxRead, rfl⟩, text, textRead,
      rfl⟩, flex, flexRead, rfl⟩, visibility, visibilityRead, rfl⟩, _, _, rfl⟩, _, _, rfl⟩, _, _, rfl⟩,
      _, other, rfl⟩ := read
    cases other
    refine ⟨finite_numbers.2 ⟨LayoutStyle.gives.decodeKeyed standard layoutRead,
      BoxStyle.gives.decodeKeyed standard boxRead, TextStyle.gives.decodeKeyed standard textRead,
      FlexStyle.gives.decodeKeyed standard flexRead,
      VisibilityStyle.gives.decodeKeyed standard visibilityRead⟩, fun entry member => ?_⟩
    simpa using (List.mem_filter.1 member).2
  | null | bool | int | float | string | array => exact nomatch read

theorem numbers_empty : ({} : Style).numbers = [] := rfl

theorem empty_keeps : Finite ({} : Style).numbers ∧ ({} : Style).Separate :=
  ⟨by simp [numbers_empty, Finite], nofun⟩

end Style
end DesignMarkup
