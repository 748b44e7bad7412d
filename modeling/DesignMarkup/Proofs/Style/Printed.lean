import DesignMarkup.Proofs.Decimal.Whole
import DesignMarkup.Proofs.Json.Compact
import DesignMarkup.Style.Inline
/-!
The properties of an inline style can be told apart from their text.
-/
namespace DesignMarkup
open Json Text

namespace Decimal

theorem AllDigits.scalar {s : List Char} (h : AllDigits s) : ∀ c ∈ s, isScalarChar c = true :=
  fun c member => isScalarChar_of_isNumeralChar (h.numeral c member)

theorem positionalText_token (l : Layout) {digits : List Char} (inDigits : AllDigits digits)
    (nonempty : digits ≠ []) (exponent : Int) : Token (l.positionalText digits exponent).toList := by
  have inTake (n : Nat) : AllDigits (digits.take n) := fun c member =>
    inDigits c (List.mem_of_mem_take member)
  have inDrop (n : Nat) : AllDigits (digits.drop n) := fun c member =>
    inDigits c (List.mem_of_mem_drop member)
  have inZeros (n : Nat) : ∀ c ∈ (zeros n).toList, isScalarChar c = true := by
    simpa [zeros] using (allDigits_zeros n).scalar
  have idle : ∀ c ∈ (if l.pointZero then ".0" else "").toList, isScalarChar c = true := by
    split <;> exact List.all_eq_true.1 rfl
  unfold Layout.positionalText
  simp only
  split
  · simp only [String.toList_append, String.toList_ofList]
    exact ⟨List.forall_mem_append.2 ⟨List.forall_mem_append.2 ⟨inDigits.scalar, inZeros _⟩, idle⟩,
      by simp [nonempty]⟩
  · split
    · simp only [String.toList_append, String.toList_ofList]
      exact ⟨List.forall_mem_append.2
        ⟨List.forall_mem_append.2 ⟨(inTake _).scalar, List.all_eq_true.1 rfl⟩, (inDrop _).scalar⟩, by simp⟩
    · simp only [String.toList_append, String.toList_ofList]
      exact ⟨List.forall_mem_append.2
        ⟨List.forall_mem_append.2 ⟨List.all_eq_true.1 rfl, inZeros _⟩, inDigits.scalar⟩, by simp⟩

theorem plainText_token (x : Float) : Token (plainLayout.write x).toList := by
  have signed {negative : Bool} {text : String} (token : Token text.toList) :
      Token ((if negative then "-" else "") ++ text).toList := by
    rw [String.toList_append]
    exact ⟨List.forall_mem_append.2 ⟨by cases negative <;> exact List.all_eq_true.1 rfl, token.chars⟩,
      fun none => token.nonempty (List.append_eq_nil_iff.1 none).2⟩
  have magnitude (d : Digits) : Token (plainLayout.magnitudeText d).toList := by
    change Token (plainLayout.positionalText (Nat.toDigits 10 d.digits) d.exponent).toList
    exact positionalText_token _ (allDigits_toDigits _) Nat.toDigits_ne_nil _
  unfold Layout.write
  simp only
  split
  · exact token_of_all rfl (by decide)
  · split
    · exact signed (token_of_all rfl (by decide))
    · exact signed (magnitude _)

theorem measureText_token (x : Float) : Token (measureText x).toList := by
  unfold measureText
  simp only
  split
  · exact intText_token _
  · exact plainText_token _

end Decimal

/-- What stands for a value in a style: a name or a number, or JSON text of another form. -/
def ValueText (text : String) : Prop :=
  Token text.toList ∨ ∃ j : Json, j.standard = true ∧ j.form ≠ .scalar ∧ text.toList = j.compactChars

theorem compact_valueText {j : Json} (standard : j.standard = true) : ValueText j.compact := by
  rw [ValueText, compact, String.toList_ofList]
  by_cases scalar : j.form = .scalar
  · exact .inl (scalar_token scalar)
  · exact .inr ⟨j, standard, scalar, rfl⟩

theorem quote_valueText (text : String) : ValueText (quote text) :=
  compact_valueText (j := .string text) rfl

theorem styleValue_valueText (key : String) {value : Json} (standard : value.standard = true) :
    ValueText (styleValue key value) := by
  unfold styleValue
  split
  · split
    · exact quote_valueText _
    · exact .inl (Decimal.measureText_token _)
  · exact quote_valueText _
  · exact compact_valueText standard

theorem token_apart {text s t : List Char} {j : Json} (token : Token text) (other : j.form ≠ .scalar) :
    text ++ s ≠ j.compactChars ++ t := by
  intro same
  obtain ⟨c, rest, rfl, scalar⟩ := token.begins
  obtain ⟨d, _, begins, form⟩ := compact_begins j
  rw [begins, List.cons_append, List.cons_append] at same
  rw [← (List.cons.inj same).1, scalar] at form
  exact other (Option.some.inj form).symm

theorem valueText_splits {text : String} (isText : ValueText text) :
    Splits ValueText String.toList (Stops isScalarChar) text := by
  intro other isOther s t endS endT same
  rcases isText with token | ⟨j, standard, form, written⟩ <;>
    rcases isOther with token' | ⟨k, standard', form', written'⟩
  · obtain ⟨texts, rest⟩ := token_split token.chars token'.chars endS endT same
    exact ⟨String.toList_inj.1 texts, rest⟩
  · exact absurd (written' ▸ same) (token_apart token form')
  · exact absurd (written ▸ same.symm) (token_apart token' form)
  · rw [written, written'] at same
    obtain ⟨rfl, rest⟩ := told_value j standard k standard' s t endS endT same
    exact ⟨String.toList_inj.1 (written.trans written'.symm), rest⟩

def isKeyChar (c : Char) : Bool := c.isAlphanum || (c == '_' || c == '$')

theorem isKeyChar_of_plain {key : String} (plain : isPlainKey key = true) :
    ∀ c ∈ key.toList, isKeyChar c = true := by
  unfold isPlainKey at plain
  simp only at plain
  split at plain
  · cases plain
  · rename_i c rest text
    rw [text]
    rw [Bool.and_eq_true, List.all_eq_true] at plain
    refine List.forall_mem_cons.2 ⟨?_, plain.2⟩
    simp only [isKeyChar, Char.isAlphanum, Bool.or_eq_true] at plain ⊢
    exact plain.1.imp_left .inl

theorem plainKey_begins {key : String} (plain : isPlainKey key = true) :
    ∃ c rest, key.toList = c :: rest ∧ isKeyChar c = true := by
  cases text : key.toList with
  | nil => simp [isPlainKey, text] at plain
  | cons c rest => exact ⟨c, rest, rfl, isKeyChar_of_plain plain c (text ▸ List.mem_cons_self)⟩

theorem objectKey_plain {key : String} (plain : isPlainKey key = true) :
    (objectKey key).toList = key.toList := by rw [objectKey, if_pos plain]

theorem objectKey_quoted {key : String} (other : isPlainKey key ≠ true) :
    (objectKey key).toList = quoteChars key.toList := by
  rw [objectKey, if_neg other, quote, String.toList_ofList]

theorem objectKey_apart {key other : String} {s t : List Char} (plain : isPlainKey key = true)
    (quoted : isPlainKey other ≠ true) : (objectKey key).toList ++ s ≠ (objectKey other).toList ++ t := by
  intro same
  obtain ⟨c, rest, text, first⟩ := plainKey_begins plain
  rw [objectKey_plain plain, objectKey_quoted quoted, text] at same
  rw [(List.cons.inj same).1] at first
  exact nomatch first

theorem objectKey_splits (key : String) :
    Splits always (fun k => (objectKey k).toList) (GoesOn ':') key := by
  intro other _ s t endS endT same
  by_cases plain : isPlainKey key = true <;> by_cases plain' : isPlainKey other = true
  · simp only [objectKey_plain plain, objectKey_plain plain'] at same
    obtain ⟨texts, rest⟩ := token_split (isKeyChar_of_plain plain) (isKeyChar_of_plain plain')
      (endS.stops rfl) (endT.stops rfl) same
    exact ⟨String.toList_inj.1 texts, rest⟩
  · exact absurd same (objectKey_apart plain plain')
  · exact absurd same.symm (objectKey_apart plain' plain)
  · simp only [objectKey_quoted plain, objectKey_quoted plain'] at same
    obtain ⟨texts, rest⟩ := quoteChars_splits _ _ trivial s t trivial trivial same
    exact ⟨String.toList_inj.1 texts, rest⟩

def declarationChars (d : String × String) : List Char :=
  (objectKey d.1).toList ++ ':' :: ' ' :: d.2.toList

theorem declaration_splits {d : String × String} (isText : ValueText d.2) :
    Splits (fun d : String × String => ValueText d.2) declarationChars (Stops isScalarChar) d := by
  obtain ⟨key, text⟩ := d
  rintro ⟨otherKey, otherText⟩ isOther s t endS endT same
  simp only [declarationChars, List.append_assoc, List.cons_append] at same
  obtain ⟨rfl, rest⟩ := objectKey_splits key otherKey trivial _ _ (goesOn_cons.2 rfl)
    (goesOn_cons.2 rfl) same
  obtain ⟨rfl, last⟩ := valueText_splits isText otherText isOther s t endS endT
    (List.cons.inj (List.cons.inj rest).2).2
  exact ⟨rfl, last⟩

theorem declarations_split {ds es : List (String × String)} {s t : List Char}
    (inD : ∀ d ∈ ds, ValueText d.2) (inE : ∀ e ∈ es, ValueText e.2) (endS : GoesOn ' ' s)
    (endT : GoesOn ' ' t)
    (same : [',', ' '].intercalate (ds.map declarationChars) ++ s =
      [',', ' '].intercalate (es.map declarationChars) ++ t) : ds = es ∧ s = t := by
  have apart (d : String × String) (s : List Char) (_ : ValueText d.2) :
      ¬ GoesOn ' ' (declarationChars d ++ s) := by
    rw [declarationChars]
    by_cases plain : isPlainKey d.1 = true
    · obtain ⟨c, rest, text, first⟩ := plainKey_begins plain
      rw [objectKey_plain plain, text]
      simp only [List.cons_append, goesOn_cons]
      rintro rfl
      exact nomatch first
    · simp [GoesOn, objectKey_quoted plain, quoteChars]
  exact separated_split (fun d member => declaration_splits (inD d member)) (fun s => stops_cons rfl)
    (fun s (ends : GoesOn ' ' s) => ends.stops rfl) (fun s => by simp [GoesOn]) apart inD inE endS
    endT same

theorem standardEntries_append (xs ys : List (String × Json)) :
    standardEntries (xs ++ ys) = (standardEntries xs && standardEntries ys) := by
  induction xs with
  | nil => rfl
  | cons entry rest ih => simp [standardEntries, ih, Bool.and_assoc]

/-- Every value is written as a JSON value, also an infinite number. -/
class WritesStandard {α : Type} (encode : α → Json) : Prop where
  standard : ∀ a, (encode a).standard = true

theorem number_standard (x : Float) : (number x).standard = true := by
  unfold number
  split
  · assumption
  · rfl

instance : WritesStandard number where
  standard := number_standard

instance : WritesStandard Json.string where
  standard _ := rfl

instance {α : Type} [Keyword α] [DecidableEq α] : WritesStandard (Keyword.encode : α → Json) where
  standard _ := rfl

instance : WritesStandard Radius.encode where
  standard r := by
    cases r with
    | px x => exact number_standard x
    | percent => rfl

instance : WritesStandard LineHeight.encode where
  standard h := by
    cases h with
    | px x => exact number_standard x
    | normal => rfl

instance : WritesStandard fun n : UInt32 => whole n.toNat where
  standard n := by
    have := n.toNat_lt
    rw [whole, standard, fitsUnsigned_iff.2 ⟨by omega, by omega⟩, Bool.or_true]

instance : WritesStandard fun n : Int32 => Json.int n.toInt where
  standard n := by
    have := n.le_toInt
    have := n.toInt_lt
    rw [standard, fitsSigned_iff.2 ⟨by omega, by omega⟩, Bool.true_or]

theorem standardEntries_entry {α : Type} {encode : α → Json} [writes : WritesStandard encode]
    (key : String) (value : Option α) : standardEntries ( entry? key (value.map encode)) = true := by
  cases value with
  | none => rfl
  | some a => simp [ entry?, standardEntries, writes.standard]

theorem Style.entries_standard {s : Style} (extra : ∀ entry ∈ s.extra, entry.2.standard = true) :
    ∀ entry ∈ s.entries, entry.2.standard = true := by
  rw [← standardEntries_iff] at extra ⊢
  -- `delta`, for the equations of the long lists of entries are slow to make
  delta entries LayoutStyle.entries BoxStyle.entries TextStyle.entries FlexStyle.entries
    VisibilityStyle.entries TransformStyle.entries ShadowStyle.entries FilterStyle.entries
  simp only [standardEntries_append, standardEntries_entry, extra, Bool.and_self]

theorem mem_ofList {α : Type} {entries : List (String × α)} {entry : String × α}
    (member : entry ∈ Dict.ofList entries) : entry ∈ entries := by
  have among (more : List (String × α)) : ∀ d : Dict α,
      entry ∈ more.foldl (fun d e => Dict.insert d e.1 e.2) d → entry ∈ d ∨ entry ∈ more := by
    induction more with
    | nil => exact fun _ => .inl
    | cons first rest ih =>
      intro d member
      rcases ih _ member with inserted | later
      · rcases Dict.mem_insert inserted with rfl | early
        · exact .inr List.mem_cons_self
        · exact .inl early
      · exact .inr (List.mem_cons_of_mem _ later)
  exact (among entries [] member).resolve_left List.not_mem_nil

def Style.printed (s : Style) : List (String × String) :=
  s.declarations.map fun (key, value) => (key, styleValue key value)

theorem Style.printed_valueText {s : Style} (extra : ∀ entry ∈ s.extra, entry.2.standard = true) :
    ∀ d ∈ s.printed, ValueText d.2 := by
  intro d member
  obtain ⟨⟨key, value⟩, declared, rfl⟩ := List.mem_map.1 member
  exact styleValue_valueText key (entries_standard extra _ (mem_ofList declared))

end DesignMarkup
