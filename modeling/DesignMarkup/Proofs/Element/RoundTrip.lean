import DesignMarkup.Element.Codec
import DesignMarkup.Proofs.Dependency
import DesignMarkup.Proofs.Element.Visit
import DesignMarkup.Proofs.Style.RoundTrip
/-!
A written element is read back, with all that is below it, if no other key stands in for one that
its attributes or its style reserve; and every element that was read is of that kind.
-/
namespace DesignMarkup
open Json Decode Shape

namespace Json

theorem height_pos (v : Json) : 0 < v.height := by
  cases v <;> simp [height]

theorem height_lt_array {items : List Json} {v : Json} (member : v ∈ items) :
    v.height < (array items).height := by
  have below : v.height ≤ heightOfItems items := by
    induction items with
    | nil => exact nomatch member
    | cons first rest ih =>
      rw [heightOfItems]
      rcases List.mem_cons.1 member with rfl | later
      · exact le_max_left ..
      · exact (ih later).trans (le_max_right ..)
  rw [height]
  omega

theorem height_lt_object (key : String) {entries : List (String × Json)} {v : Json}
    (member : (key, v) ∈ entries) : v.height < (object entries).height := by
  have below : v.height ≤ heightOfEntries entries := by
    induction entries with
    | nil => exact nomatch member
    | cons first rest ih =>
      rw [heightOfEntries]
      rcases List.mem_cons.1 member with rfl | later
      · exact le_max_left ..
      · exact (ih later).trans (le_max_right ..)
  rw [height]
  omega

end Json

namespace Element

/-- No key of another attribute or of the rest of the style is one that the codec reserves. -/
def Writable (e : Element) : Prop :=
  ∀ d ∈ e.visit, d.tag ≠ "" ∧ (∀ entry ∈ d.attributes.extra, isCommon entry.1 = false) ∧
    d.style.Separate

def FiniteNumbers (e : Element) : Prop := ∀ d ∈ e.visit, Finite d.style.numbers

theorem encodeAll_eq (items : List Element) : encodeAll items = items.map encode := by
  induction items with
  | nil => rw [encodeAll, List.map_nil]
  | cons e rest ih => rw [encodeAll, List.map_cons, ih]

theorem encodeExtra_eq (extra : List (String × Attribute)) :
    encodeExtra extra = extra.map fun entry => (entry.1, encodeAttribute entry.2) := by
  induction extra with
  | nil => rw [encodeExtra, List.map_nil]
  | cons entry rest ih =>
    obtain ⟨key, value⟩ := entry
    rw [encodeExtra, List.map_cons, ih]

theorem encodeAttributes_eq (a : Attributes) :
    encodeAttributes a = .object (a.entries ++ encodeExtra a.extra) := by
  obtain ⟨className, src, alt, extra⟩ := a
  rw [encodeAttributes]
  rfl

def childrenValue : Content → Option Json
  | .children [] => none
  | .children items => some (.array (items.map encode))
  | _ => none

theorem encode_eq (e : Element) :
    e.encode = .object ( entry? "tag" (some (.string e.tag)) ++
      entry? "packageName" (e.package.map .string) ++
      entry? "defaultModule" (some (.bool e.isDefault)) ++ entry? "style" (some e.style.encode) ++
      entry? "props" (some (encodeAttributes e.attributes)) ++
      entry? "children" (childrenValue e.content) ++
      entry? "dependencies" (some e.dependencies.encode) ++ entry? "name" (some (.string e.name)) ++
      entry? "type" (some (.string e.kind)) ++ entry? "text" (e.text?.map .string) ++
      entry? "asset" (e.asset?.map .string) ++ entry? "id" (e.id.map .string) ++
      entry? "toTemplate" (e.template.map .string)) := by
  obtain ⟨tag, package, isDefault, style, attributes, content, dependencies, name, kind, id,
    template⟩ := e
  rw [encode]
  rcases content with (_ | ⟨c, rest⟩) | s | url
  · simp [ entry?, encodeChildren, encodePayload, childrenValue, text?, asset?]
  · simp [ entry?, encodeChildren, encodePayload, childrenValue, text?, asset?, encodeAll_eq]
  · simp [ entry?, encodeChildren, encodePayload, childrenValue, text?, asset?]
  · simp [ entry?, encodeChildren, encodePayload, childrenValue, text?, asset?]

theorem height_child {e c : Element} (member : c ∈ e.children) :
    c.encode.height < e.encode.height := by
  have written : ∃ items, ("children", .array items) ∈ entry? "children" (childrenValue e.content) ∧
      c.encode ∈ items := by
    cases content : e.content with
    | children items =>
      rw [children, content, Content.items] at member
      cases items with
      | nil => cases member
      | cons d rest => exact ⟨_, List.mem_singleton.2 rfl, List.mem_map_of_mem member⟩
    | text => simp [children, content, Content.items] at member
    | asset => simp [children, content, Content.items] at member
  obtain ⟨items, entry, member⟩ := written
  have inner := height_lt_array member
  have outer : (Json.array items).height < e.encode.height := by
    rw [encode_eq]
    refine height_lt_object "children" ?_
    simp [entry]
  exact inner.trans outer

theorem height_attribute {e c : Element} {key : String}
    (member : (key, .element c) ∈ e.attributes.extra) : c.encode.height < e.encode.height := by
  have inner : c.encode.height < (tagged "node" c.encode).height :=
    height_lt_object "value" (List.mem_cons_of_mem _ (List.mem_singleton.2 rfl))
  have middle : (tagged "node" c.encode).height < (encodeAttributes e.attributes).height := by
    rw [encodeAttributes_eq, encodeExtra_eq]
    have written : (key, tagged "node" c.encode) ∈
        e.attributes.extra.map fun entry => (entry.1, encodeAttribute entry.2) :=
      List.mem_map.2 ⟨_, member, by rw [encodeAttribute]⟩
    exact height_lt_object key (List.mem_append_right _ written)
  have outer : (encodeAttributes e.attributes).height < e.encode.height := by
    have written : ("props", encodeAttributes e.attributes) ∈
        entry? "props" (some (encodeAttributes e.attributes)) := List.mem_singleton.2 rfl
    rw [encode_eq]
    refine height_lt_object "props" ?_
    simp [written]
  exact inner.trans (middle.trans outer)

section
variable {element : Decoder Element} {P : Element → Prop}

theorem items_recovered {items : List Element}
    (reads : ∀ c ∈ items, Recovered (P c) element c.encode c) :
    ∃ again, (∀ o i, itemsFrom element o i (items.map encode) = .ok again) ∧
      ((∀ c ∈ items, P c) → again = items) := by
  induction items with
  | nil => exact ⟨[], fun _ _ => rfl, fun _ => rfl⟩
  | cons c rest ih =>
    rw [List.forall_mem_cons] at reads
    obtain ⟨c', read, same⟩ := reads.1
    obtain ⟨rest', readRest, sameRest⟩ := ih reads.2
    refine ⟨c' :: rest', fun o i => ?_, fun all => ?_⟩
    · rw [List.map_cons, itemsFrom, read, readRest]
      rfl
    · rw [List.forall_mem_cons] at all
      rw [same all.1, sameRest all.2]

theorem attribute_recovered {value : Attribute}
    (reads : ∀ c, value = .element c → Recovered (P c) element c.encode c) :
    Recovered (∀ c, value = .element c → P c) (decodeAttribute element) (encodeAttribute value)
      value := by
  cases value with
  | data v => exact recovered_of_eq fun o => by rw [encodeAttribute]; cases o <;> rfl
  | element c =>
    obtain ⟨c', read, same⟩ := reads c rfl
    refine ⟨.element c', fun o => ?_, fun p => by rw [same (p c rfl)]⟩
    have kind : Keyword.decode o (.string "node") = .ok AttributeKind.node := by cases o <;> rfl
    rw [encodeAttribute, tagged]
    simp [decodeAttribute, Dict.get?, kind, read, bind, Except.bind, Except.map]

theorem extra_recovered {extra : List (String × Attribute)}
    (reads : ∀ key c, (key, .element c) ∈ extra → Recovered (P c) element c.encode c) :
    ∃ again, (∀ o, Decode.entries (decodeAttribute element) o (encodeExtra extra) = .ok again) ∧
      ((∀ key c, (key, .element c) ∈ extra → P c) → again = extra) := by
  induction extra with
  | nil => exact ⟨[], fun _ => by rw [encodeExtra]; rfl, fun _ => rfl⟩
  | cons entry rest ih =>
    obtain ⟨key, value⟩ := entry
    obtain ⟨value', read, same⟩ : Recovered (∀ c, value = .element c → P c)
        (decodeAttribute element) (encodeAttribute value) value :=
      attribute_recovered fun c here => reads key c (by simp [here])
    obtain ⟨rest', readRest, sameRest⟩ := ih fun k c later => reads k c (List.mem_cons_of_mem _ later)
    refine ⟨(key, value') :: rest', fun o => ?_, fun all => ?_⟩
    · have readRest := readRest o
      unfold Decode.entries at readRest ⊢
      rw [encodeExtra, List.mapM_cons, readRest]
      simp [read, Refusal.under, bind, Except.bind, pure, Except.pure]
    · rw [same fun c here => all key c (by simp [here]),
        sameRest fun k c later => all k c (List.mem_cons_of_mem _ later)]

theorem commonAttributes_recovers {P : Prop} (a : Attributes) :
    commonAttributes.Recovers P ["className", "src", "alt"] a.entries
      (Attributes.mk a.className a.src a.alt) :=
  recovers_optionalLast (fun _ _ _ => trivial) |>.map Attributes.mk
    |>.seq (recovers_optionalLast fun _ _ _ => trivial)
    |>.seq (recovers_optionalLast fun _ _ _ => trivial)

theorem isCommon_iff {key : String} : isCommon key = true ↔ key ∈ ["className", "src", "alt"] :=
  List.contains_iff_mem

theorem isCommon_of_written {extra : List (String × Attribute)}
    (free : ∀ entry ∈ extra, isCommon entry.1 = false) :
    ∀ entry ∈ encodeExtra extra, isCommon entry.1 = false := by
  intro entry written
  rw [encodeExtra_eq] at written
  obtain ⟨source, member, rfl⟩ := List.mem_map.1 written
  exact free source member

theorem filter_common {slots : List Slot} {extra : List (String × Attribute)}
    (common : slots.map Prod.fst = ["className", "src", "alt"])
    (free : ∀ entry ∈ extra, isCommon entry.1 = false) :
    (Slot.entries slots ++ encodeExtra extra).filter (fun entry => !isCommon entry.1) =
      encodeExtra extra := by
  have none : (Slot.entries slots).filter (fun entry => !isCommon entry.1) = [] := by
    refine List.filter_eq_nil_iff.2 fun entry member => ?_
    have key := Slot.keys_entries slots (List.mem_map_of_mem member)
    simp [isCommon_iff.2 (common ▸ key)]
  have all : (encodeExtra extra).filter (fun entry => !isCommon entry.1) = encodeExtra extra :=
    List.filter_eq_self.2 fun entry member => by simp [isCommon_of_written free entry member]
  rw [List.filter_append, none, all, List.nil_append]

theorem attributes_recovered {a : Attributes} (free : ∀ entry ∈ a.extra, isCommon entry.1 = false)
    (reads : ∀ key c, (key, .element c) ∈ a.extra → Recovered (P c) element c.encode c) :
    Recovered (∀ key c, (key, .element c) ∈ a.extra → P c) (decodeAttributes element)
      (encodeAttributes a) a := by
  obtain ⟨extra, readExtra, sameExtra⟩ := extra_recovered reads
  refine ⟨⟨a.className, a.src, a.alt, extra⟩, fun o => ?_, fun all => ?_⟩
  · obtain ⟨slots, common, written, readCommon⟩ :=
      (commonAttributes_recovers (P := True) a).decodeKeyed "struct Props" o
    have holds : Holds (Slot.entries slots ++ encodeExtra a.extra) slots := by
      refine holds_entries (common ▸ by decide) fun key own other => ?_
      obtain ⟨entry, member, rfl⟩ := List.mem_map.1 other
      have isOwn := isCommon_iff.2 (common ▸ own)
      exact Bool.false_ne_true ((isCommon_of_written free entry member).symm.trans isOwn)
    obtain ⟨common', read, same⟩ := readCommon _ holds
    rw [encodeAttributes_eq, ← written]
    simp only [decodeAttributes, read, same trivial, filter_common common free, readExtra]
    rfl
  · rw [sameExtra all]
    cases a
    rfl

theorem content_recovered {e : Element}
    (reads : ∀ c ∈ e.children, Recovered (P c) element c.encode c) :
    ∃ items content, (∀ v ∈ childrenValue e.content, Recovered True (list element) v items) ∧
      (childrenValue e.content = none → [] = items) ∧
      contentOf e.text? e.asset? items = .ok content ∧
      ((∀ c ∈ e.children, P c) → content = e.content) := by
  obtain ⟨tag, package, isDefault, style, attributes, content, dependencies, name, kind, id,
    template⟩ := e
  cases content with
  | children items =>
    obtain ⟨again, read, same⟩ := items_recovered reads
    refine ⟨again, .children again, ?_, ?_, rfl, fun all => by rw [same all]; rfl⟩
    · rintro v written
      cases items with
      | nil => exact nomatch written
      | cons c rest =>
        cases written
        exact ⟨again, fun o => read o 0, fun _ => rfl⟩
    · intro unwritten
      cases items with
      | nil => exact Except.ok.inj (read .direct 0)
      | cons c rest => exact nomatch unwritten
  | text s => exact ⟨[], .text s, nofun, fun _ => rfl, rfl, fun _ => rfl⟩
  | asset url => exact ⟨[], .asset url, nofun, fun _ => rfl, rfl, fun _ => rfl⟩

def keys : List String :=
  ["tag", "packageName", "defaultModule", "style", "props", "children", "dependencies", "name",
    "type", "text", "asset", "id", "toTemplate"]

theorem parts_recovers {e : Element} {style : Style} {attributes : Attributes} {items : List Element}
    (readsStyle : Recovered True Style.decode e.style.encode style)
    (readsAttributes :
      Recovered True (decodeAttributes element) (encodeAttributes e.attributes) attributes)
    (readsChildren : ∀ v ∈ childrenValue e.content, Recovered True (list element) v items)
    (noChildren : childrenValue e.content = none → [] = items) :
    ∃ entries, e.encode = .object entries ∧
      (parts element).Recovers True keys entries
        ⟨e.tag, e.package, e.isDefault, style, attributes, items, e.dependencies, e.name, e.kind,
          e.text?, e.asset?, e.id, e.template⟩ := by
  refine ⟨_, encode_eq e, ?_⟩
  have text? {key : String} {value : Option String} :
      (optionalLast key string).Recovers True [key] ( entry? key (value.map .string)) value :=
    recovers_optionalLast fun _ _ _ => trivial
  have given {α : Type} {key : String} {default : α} {decode : Decoder α} {v : Json} {a : α}
      (h : Recovered True decode v a) :
      (withDefault key default decode).Recovers True [key] ( entry? key (some v)) a :=
    recovers_withDefault (by rintro _ ⟨⟩; exact h) nofun
  have text {key s : String} :
      (withDefault key "" string).Recovers True [key] ( entry? key (some (.string s))) s :=
    given (recovered_of_eq fun _ => rfl)
  have tag : (required "tag" string).Recovers True ["tag"] ( entry? "tag" (some (.string e.tag))) e.tag :=
    recovers_required (recovered_of_eq fun _ => rfl)
  exact tag.map Parts.mk |>.seq text? |>.seq (given (recovered_of_eq fun _ => rfl))
    |>.seq (given readsStyle) |>.seq (given readsAttributes)
    |>.seq (recovers_withDefault readsChildren noChildren)
    |>.seq (given (recovered_of_eq e.dependencies.decode_encode)) |>.seq text |>.seq text
    |>.seq text? |>.seq text? |>.seq text? |>.seq text?

end

theorem keys_nodup : keys.Nodup := by simp [keys]

theorem Parts.toElement_eq_ok {p : Parts} {e : Element} :
    p.toElement = .ok e ↔ p.tag ≠ "" ∧ ∃ content, contentOf p.text p.asset p.children = .ok content ∧
      ⟨p.tag, p.package, p.isDefault, p.style, p.attributes, content, p.dependencies, p.name, p.kind,
        p.id, p.template⟩ = e := by
  unfold Parts.toElement
  by_cases empty : p.tag = ""
  · simp [empty, refuse, bind, Except.bind]
  · cases settled : contentOf p.text p.asset p.children <;>
      simp [empty, bind, Except.bind, pure, Except.pure]

theorem decodeWithin_encode {n : Nat} {e : Element} (low : e.encode.height ≤ n)
    (writable : e.Writable) : Recovered e.FiniteNumbers (decodeWithin n) e.encode e := by
  induction n generalizing e with
  | zero => exact absurd e.encode.height_pos (by omega)
  | succ n ih =>
    have below {c : Element} (branch : c ∈ e.branches) (lower : c.encode.height < e.encode.height) :
        Recovered c.FiniteNumbers (decodeWithin n) c.encode c :=
      ih (by omega) fun d member => writable d (visit_branch branch member)
    obtain ⟨nonempty, free, separate⟩ := writable e e.mem_visit_self
    obtain ⟨style, readsStyle, sameStyle⟩ := (Style.decode_encode separate).exists_same
    obtain ⟨attributes, readsAttributes, sameAttributes⟩ :=
      (attributes_recovered free fun key c member =>
        below (attribute_mem_branches member) (height_attribute member)).exists_same
    obtain ⟨items, content, readsChildren, noChildren, settled, sameContent⟩ :=
      content_recovered fun c member => below (child_mem_branches member) (height_child member)
    obtain ⟨entries, written, recovers⟩ :=
      parts_recovers readsStyle readsAttributes readsChildren noChildren
    refine ⟨⟨e.tag, e.package, e.isDefault, style, attributes, content, e.dependencies, e.name,
      e.kind, e.id, e.template⟩, fun o => ?_, fun finite => ?_⟩
    · obtain ⟨slots, own, rfl, reads⟩ := recovers.decodeKeyed ("struct " ++ "TreeNodeRepr") o
      have holds : Holds (Slot.entries slots ++ []) slots :=
        holds_entries (own ▸ keys_nodup) (by simp)
      rw [List.append_nil] at holds
      obtain ⟨parts', read, same⟩ := reads _ holds
      cases same trivial
      rw [written, decodeWithin]
      simp only [Shape.decode, read]
      exact Parts.toElement_eq_ok.2 ⟨nonempty, content, settled, rfl⟩
    · rw [sameStyle (finite e e.mem_visit_self), sameAttributes fun key c member => ?_,
        sameContent fun c member => ?_]
      · cases e
        rfl
      · exact fun d member' => finite d (visit_branch (child_mem_branches member) member')
      · exact fun d member' => finite d (visit_branch (attribute_mem_branches member) member')

section
variable {element : Decoder Element} {Q : Element → Prop}

theorem itemsFrom_keeps {o : Origin} {i : Nat} {items : List Json} {es : List Element}
    (keeps : ∀ v ∈ items, ∀ c, element o v = .ok c → Q c)
    (read : itemsFrom element o i items = .ok es) : ∀ c ∈ es, Q c := by
  induction items generalizing i es with
  | nil =>
    cases read
    simp
  | cons v rest ih =>
    rw [List.forall_mem_cons] at keeps
    simp only [itemsFrom, bind_eq_ok, under_eq_ok, pure, Except.pure, Except.ok.injEq] at read
    obtain ⟨c, first, below, later, rfl⟩ := read
    exact List.forall_mem_cons.2 ⟨keeps.1 c first, ih keeps.2 later⟩

theorem list_keeps {o : Origin} {v : Json} {es : List Element}
    (keeps : ∀ o v c, v.standard = true → element o v = .ok c → Q c) (standard : v.standard = true)
    (read : list element o v = .ok es) : ∀ c ∈ es, Q c := by
  cases v with
  | array items =>
    exact itemsFrom_keeps (fun v member c => keeps o v c (standardItems_iff.1 standard v member)) read
  | null | bool | int | float | string | object => exact nomatch read

theorem element_of_kind {o : Origin} {kind : AttributeKind} {w : Json} {c : Element}
    (standard : w.standard = true)
    (read : (match kind with
      | .node => (element o w).map Attribute.element
      | .data => .ok (.data w)) = .ok (.element c)) :
    ∃ inner, inner.standard = true ∧ element o inner = .ok c := by
  cases kind with
  | node =>
    cases below : element o w with
    | error e => simp [below, Except.map] at read
    | ok d =>
      obtain rfl : d = c := by simpa [below, Except.map] using read
      exact ⟨w, standard, below⟩
  | data => simp at read

theorem decodeAttribute_element {o : Origin} {v : Json} {c : Element}
    (read : decodeAttribute element o v = .ok (.element c)) (standard : v.standard = true) :
    ∃ inner, inner.standard = true ∧ element o inner = .ok c := by
  unfold decodeAttribute at read
  cases v with
  | object fields =>
    simp only at read
    split at read
    · cases read
    · rename_i k payload _
      obtain ⟨kind, -, read⟩ := bind_eq_ok.1 read
      cases found : Dict.get? fields "value" with
      | none => simp [found, refuse] at read
      | some w =>
        simp only [found] at read
        exact element_of_kind (standardEntries_iff.1 standard _ (Dict.mem_of_get? found)) read
  | array items =>
    rcases items with _ | ⟨k, rest⟩
    · cases read
    · obtain ⟨kind, -, read⟩ := bind_eq_ok.1 read
      rcases rest with _ | ⟨w, more⟩
      · cases read
      · rcases more with _ | ⟨x, more⟩
        · exact element_of_kind (standardItems_iff.1 standard w (by simp)) read
        · obtain ⟨_, _, read⟩ := bind_eq_ok.1 read
          cases read
  | null | bool | int | float | string => cases read

theorem entries_keeps {α : Type} {decode : Decoder α} {o : Origin} {fields : Dict Json} {read : Dict α}
    (h : Decode.entries decode o fields = .ok read) :
    ∀ entry ∈ read, ∃ v, (entry.1, v) ∈ fields ∧ decode o v = .ok entry.2 := by
  unfold Decode.entries at h
  induction fields generalizing read with
  | nil =>
    cases h
    simp
  | cons field rest ih =>
    obtain ⟨key, v⟩ := field
    simp only [List.mapM_cons, bind_eq_ok, under_eq_ok, pure, Except.pure, Except.ok.injEq] at h
    obtain ⟨_, ⟨a, first, rfl⟩, more, later, rfl⟩ := h
    intro entry member
    rcases List.mem_cons.1 member with rfl | member
    · exact ⟨v, List.mem_cons_self, first⟩
    · obtain ⟨w, member, below⟩ := ih later entry member
      exact ⟨w, List.mem_cons_of_mem _ member, below⟩

theorem commonAttributes_gives :
    commonAttributes.Gives fun attributes => ∀ extra, (attributes extra).extra = extra :=
  (gives_any _).seq <| (gives_any _).seq <| Gives.map <|
    (gives_any _).mono fun _ _ _ _ _ _ _ => rfl

theorem attributes_keeps {o : Origin} {v : Json} {a : Attributes}
    (keeps : ∀ o v c, v.standard = true → element o v = .ok c → Q c) (standard : v.standard = true)
    (read : decodeAttributes element o v = .ok a) :
    (∀ entry ∈ a.extra, isCommon entry.1 = false) ∧
      ∀ key c, (key, .element c) ∈ a.extra → Q c := by
  cases v with
  | object fields =>
    obtain ⟨attributes, common, read⟩ := bind_eq_ok.1 read
    obtain ⟨extra, readExtra, same⟩ := bind_eq_ok.1 read
    cases same
    rw [commonAttributes_gives.decodeKeyed standard common extra]
    have origin (entry) (member : entry ∈ extra) := entries_keeps readExtra entry member
    refine ⟨fun entry member => ?_, fun key c member => ?_⟩
    · obtain ⟨v, written, -⟩ := origin entry member
      simpa using (List.mem_filter.1 written).2
    · obtain ⟨v, written, below⟩ := origin _ member
      have inField := standardEntries_iff.1 standard _ (List.mem_filter.1 written).1
      obtain ⟨w, inner, got⟩ := decodeAttribute_element below inField
      exact keeps _ w c inner got
  | null | bool | int | float | string | array => exact nomatch read

structure Parts.Keeps (Q : Element → Prop) (p : Parts) : Prop where
  free : ∀ entry ∈ p.attributes.extra, isCommon entry.1 = false
  attributes : ∀ key c, (key, .element c) ∈ p.attributes.extra → Q c
  separate : p.style.Separate
  finite : Finite p.style.numbers
  children : ∀ c ∈ p.children, Q c

theorem parts_give (keeps : ∀ o v c, v.standard = true → element o v = .ok c → Q c) :
    (parts element).Gives (Parts.Keeps Q) := by
  have children : (withDefault "children" [] (list element)).Gives fun es => ∀ c ∈ es, Q c :=
    gives_field (fun o v es => list_keeps keeps) (by simp) (by simp)
  have attributes : (withDefault "props" .empty (decodeAttributes element)).Gives fun a =>
      (∀ entry ∈ a.extra, isCommon entry.1 = false) ∧ ∀ key c, (key, .element c) ∈ a.extra → Q c :=
    gives_field (fun o v a => attributes_keeps keeps) (by simp [Attributes.empty])
      (by simp [Attributes.empty])
  have style : (withDefault "style" {} Style.decode).Gives fun s => Finite s.numbers ∧ s.Separate :=
    gives_field (fun o v s => Style.decode_keeps) (by rintro _ ⟨⟩; exact Style.empty_keeps)
      (by rintro _ ⟨⟩; exact Style.empty_keeps)
  refine (gives_any _).seq <| (gives_any _).seq <| (gives_any _).seq <| (gives_any _).seq <|
    (gives_any _).seq <| (gives_any _).seq <| (gives_any _).seq <| children.seq <|
    attributes.seq <| style.seq <| (gives_any _).seq <| (gives_any _).seq <| Gives.map <|
    (gives_any _).mono ?_
  intro tag _ package _ isDefault _ style keptStyle attributes keptAttributes items keptItems
    dependencies _ name _ kind _ text _ asset _ id _ template _
  exact ⟨keptAttributes.1, keptAttributes.2, keptStyle.2, keptStyle.1, keptItems⟩

end

theorem visit_forall {e : Element} {good : Element → Prop} (here : good e)
    (below : ∀ c ∈ e.branches, ∀ d ∈ c.visit, good d) : ∀ d ∈ e.visit, good d := by
  intro d member
  rw [visit_eq] at member
  rcases List.mem_cons.1 member with rfl | member
  · exact here
  · obtain ⟨c, branch, inside⟩ := mem_descendants.1 member
    exact below c branch d inside

theorem branches_forall {e : Element} {Q : Element → Prop}
    (attributes : ∀ key c, (key, .element c) ∈ e.attributes.extra → Q c)
    (children : ∀ c ∈ e.children, Q c) : ∀ c ∈ e.branches, Q c := by
  intro c branch
  rcases List.mem_append.1 branch with element | child
  · obtain ⟨⟨key, d⟩, member, rfl⟩ := List.mem_map.1 element
    exact attributes key d (mem_elements.1 member)
  · exact children c child

theorem items_of_contentOf {text asset : Option String} {items : List Element} {content : Content}
    (settled : contentOf text asset items = .ok content) : content.items ⊆ items := by
  unfold contentOf at settled
  split at settled <;> simp only [refuse, reduceCtorEq, Except.ok.injEq] at settled <;>
    simp [← settled, Content.items]

theorem decodeWithin_keeps {n : Nat} {o : Origin} {v : Json} {e : Element}
    (standard : v.standard = true) (read : decodeWithin n o v = .ok e) :
    e.Writable ∧ e.FiniteNumbers := by
  induction n generalizing o v e with
  | zero => exact nomatch read
  | succ n ih =>
    obtain ⟨p, readParts, settled⟩ := bind_eq_ok.1 read
    obtain ⟨nonempty, content, payload, rfl⟩ := Parts.toElement_eq_ok.1 settled
    have kept : p.Keeps fun c => c.Writable ∧ c.FiniteNumbers :=
      (parts_give fun _ _ _ => ih).decode standard readParts
    have below := branches_forall (e := ⟨p.tag, p.package, p.isDefault, p.style, p.attributes, content,
      p.dependencies, p.name, p.kind, p.id, p.template⟩) kept.attributes fun c member =>
      kept.children c (items_of_contentOf payload member)
    exact ⟨visit_forall ⟨nonempty, kept.free, kept.separate⟩ fun c branch => (below c branch).1,
      visit_forall kept.finite fun c branch => (below c branch).2⟩

/-- Encoding and decoding are inverse: an element that was read is read again from what it is
written as, and so is every element that can be written and has finite numbers. -/
theorem encode_decode_inverse :
    (∀ o o' v e, v.standard = true → decode o v = .ok e → decode o' e.encode = .ok e) ∧
      ∀ o e, Writable e → FiniteNumbers e → decode o e.encode = .ok e := by
  have again (o : Origin) (e : Element) (writable : e.Writable) (finite : e.FiniteNumbers) :
      decode o e.encode = .ok e := by
    obtain ⟨e', read, same⟩ := decodeWithin_encode le_rfl writable
    rw [decode, read, same finite]
  refine ⟨fun o o' v e standard read => ?_, again⟩
  obtain ⟨writable, finite⟩ := decodeWithin_keeps standard read
  exact again o' e writable finite

def titledCard : Element :=
  { (of "Card" "Card" "FRAME").withComponent "ui" true |>.withChildren [(of "p" "" "TEXT").withText "Hi"] with
    attributes := ⟨some "wide", none, none, [("icon", .element (of "i" "" "VECTOR")), ("size", .data (.int 2))]⟩
    style := { layout := { top := some 1.5 }, extra := [("gap", .string "4px")] } }

theorem titledCard_read_back :
    (∃ e, Json.standard (.object [("tag", .string "p"), ("text", .string "Hi")]) = true ∧
      decode .direct (.object [("tag", .string "p"), ("text", .string "Hi")]) = .ok e ∧
      decode .buffered e.encode = .ok e) ∧
    titledCard.Writable ∧ titledCard.FiniteNumbers ∧
      decode .direct titledCard.encode = .ok titledCard := by
  have visited : titledCard.visit =
      [titledCard, of "i" "" "VECTOR", (of "p" "" "TEXT").withText "Hi"] := rfl
  have writable : titledCard.Writable := by
    rw [Writable, visited]
    simp only [List.forall_mem_cons, List.not_mem_nil, false_implies, implies_true, and_true]
    exact ⟨⟨by decide, by decide, List.forall_mem_singleton.2 rfl⟩, ⟨by decide, nofun, nofun⟩,
      by decide, nofun, nofun⟩
  have finite : titledCard.FiniteNumbers := by
    rw [FiniteNumbers, visited]
    simp only [List.forall_mem_cons, List.not_mem_nil, false_implies, implies_true, and_true]
    have lengths : titledCard.style.numbers = [1.5] := rfl
    exact ⟨by rw [lengths, Finite, List.forall_mem_singleton]; decide, Style.empty_keeps.1,
      Style.empty_keeps.1⟩
  exact ⟨⟨(of "p" "" "").withText "Hi", by decide, rfl, encode_decode_inverse.1 .direct .buffered
    (.object [("tag", .string "p"), ("text", .string "Hi")]) _ (by decide) rfl⟩, writable, finite,
    encode_decode_inverse.2 .direct titledCard writable finite⟩

end Element
end DesignMarkup
