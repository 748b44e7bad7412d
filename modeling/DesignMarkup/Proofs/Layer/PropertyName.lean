import DesignMarkup.Proofs.Layer.Properties
import DesignMarkup.Proofs.Text.CaseMapping
import DesignMarkup.Proofs.Text.Pieces
/-!
Which names of properties can be written as names of attributes. Words are joined in camel case, and the
first letter of a word may become a letter with marks, which are no part of a name.
-/
namespace DesignMarkup
open Markup Text

/-- The letters that have no capital of their own: what stands for it is a letter and marks. -/
def markedCapitals : List Char :=
  [0x1f0, 0x390, 0x3b0, 0x1e96, 0x1e97, 0x1e98, 0x1e99, 0x1f50, 0x1f52, 0x1f54, 0x1f56, 0x1fb6, 0x1fb7,
    0x1fc6, 0x1fc7, 0x1fd2, 0x1fd3, 0x1fd6, 0x1fd7, 0x1fe2, 0x1fe3, 0x1fe4, 0x1fe6, 0x1fe7, 0x1ff6,
    0x1ff7].map Char.ofNat

/-- The only letter whose small letter has a mark. -/
def dottedCapital : Char := '\u0130'

/-- The first word begins with the dotted capital, or a later one with a letter without a capital. -/
def LosesName (property : String) : Prop :=
  let words := wordsOf (property.toList.takeWhile (· != '#'))
  words.head?.bind List.head? = some dottedCapital ∨
    ∃ word ∈ words.tail, ∃ c ∈ markedCapitals, word.head? = some c

theorem lower_several : ∀ entry ∈ lowerTable.several, Char.ofNat entry.1 = dottedCapital :=
  List.forall_mem_singleton.2 rfl

theorem upper_several : ∀ entry ∈ upperTable.several, Char.ofNat entry.1 ∈ markedCapitals ∨
    ∀ n ∈ entry.2, isAlphanumeric (Char.ofNat n) = true := by
  have letters : upperTable.several.all (fun entry =>
      (entry.2.all fun n => alphabeticRanges.coversEvery 1 n n) ||
        markedCapitals.contains (Char.ofNat entry.1)) = true := by decide +kernel
  intro entry member
  have own := List.all_eq_true.1 letters entry member
  rw [Bool.or_eq_true, List.contains_iff_mem, List.all_eq_true] at own
  refine own.symm.imp_right fun covered n inside => ?_
  have alphabetic := Ranges.covers_of_coversEvery (k := 0) (covered n inside) (by omega)
  rw [isAlphanumeric, isAlphabetic_ofNat (by simpa using alphabetic), Bool.true_or]

theorem underscore_kept : toLowerCase '_' = ['_'] ∧ toUpperCase '_' = ['_'] := by
  constructor <;> cbv

theorem dottedCapital_lowered :
    toLowerCase dottedCapital = ['i', '\u0307'] ∧ isAttributePart '\u0307' = false := by
  constructor <;> cbv

theorem map_wordChars {t : CaseTable} (keeps : t.runs.all (·.keepsLetters) = true)
    (underscore : t.map '_' = ['_']) {c : Char} (word : isWordChar c = true)
    (several : ∀ codes, (c.toNat, codes) ∈ t.several →
      ∀ n ∈ codes, isAlphanumeric (Char.ofNat n) = true) :
    ∀ d ∈ t.map c, isWordChar d = true := by
  rw [isWordChar, Bool.or_eq_true, beq_iff_eq] at word
  rcases word with letter | rfl
  · intro d member
    rw [isWordChar, t.map_alphanumeric keeps letter several d member, Bool.true_or]
  · rw [underscore, List.forall_mem_singleton]
    rfl

theorem toLowerCase_wordChars {c : Char} (word : isWordChar c = true) (plain : c ≠ dottedCapital) :
    ∀ d ∈ toLowerCase c, isWordChar d = true := by
  refine map_wordChars tables_keepLetters.1 underscore_kept.1 word ?_
  intro codes entry
  have dotted := lower_several _ entry
  rw [Char.ofNat_toNat] at dotted
  exact absurd dotted plain

theorem toUpperCase_wordChars {c : Char} (word : isWordChar c = true) (plain : c ∉ markedCapitals) :
    ∀ d ∈ toUpperCase c, isWordChar d = true := by
  refine map_wordChars tables_keepLetters.2 underscore_kept.2 word ?_
  intro codes entry
  have found := upper_several _ entry
  rw [Char.ofNat_toNat] at found
  exact found.resolve_left plain

theorem isAttributePart_of_isWordChar {c : Char} (word : isWordChar c = true) :
    isAttributePart c = true := by
  rw [isWordChar] at word
  rw [isAttributePart, word, Bool.true_or, Bool.true_or]

theorem toLowerCase_parts_iff {c : Char} (word : isWordChar c = true) :
    (toLowerCase c).all isAttributePart = true ↔ c ≠ dottedCapital := by
  constructor
  · rintro parts rfl
    rw [dottedCapital_lowered.1, List.all_cons, List.all_cons, dottedCapital_lowered.2] at parts
    simp at parts
  · intro plain
    exact List.all_eq_true.2 fun d member =>
      isAttributePart_of_isWordChar (toLowerCase_wordChars word plain d member)

theorem toUpperCase_parts_iff {c : Char} (word : isWordChar c = true) :
    (toUpperCase c).all isAttributePart = true ↔ c ∉ markedCapitals := by
  constructor
  · intro parts marked
    have unwritten : markedCapitals.all (fun c => !(toUpperCase c).all isAttributePart) = true := by
      decide +kernel
    have own := List.all_eq_true.1 unwritten c marked
    rw [parts] at own
    exact nomatch own
  · intro plain
    exact List.all_eq_true.2 fun d member =>
      isAttributePart_of_isWordChar (toUpperCase_wordChars word plain d member)

/-- A small letter begins with a letter, also that of the dotted capital. -/
theorem toLowerCase_begins {c : Char} (word : isWordChar c = true) :
    ∃ d marks, toLowerCase c = d :: marks ∧ isWordChar d = true := by
  by_cases dotted : c = dottedCapital
  · subst dotted
    exact ⟨'i', ['\u0307'], dottedCapital_lowered.1, by decide⟩
  · have chars := toLowerCase_wordChars word dotted
    cases lower : toLowerCase c with
    | nil => exact absurd lower (CaseTable.map_ne_nil (by decide) c)
    | cons d marks => exact ⟨d, marks, rfl, chars d (by rw [lower]; exact List.mem_cons_self)⟩

theorem word_chars {s word : List Char} (member : word ∈ wordsOf s) :
    ∃ c rest, word = c :: rest ∧ isWordChar c = true ∧ ∀ d ∈ rest, isWordChar d = true := by
  obtain ⟨piece, filled⟩ := List.mem_filter.1 member
  have chars : ∀ c ∈ word, isWordChar c = true := fun c inside => by
    simpa using mem_splitBy piece c inside
  cases word with
  | nil => exact nomatch filled
  | cons c rest => exact ⟨c, rest, rfl, List.forall_mem_cons.1 chars⟩

theorem mapFirst_parts {f : Char → List Char} {c : Char} {rest : List Char}
    (chars : ∀ d ∈ rest, isWordChar d = true) :
    (mapFirst f (c :: rest)).all isAttributePart = (f c).all isAttributePart := by
  have later : rest.all isAttributePart = true :=
    List.all_eq_true.2 fun d member => isAttributePart_of_isWordChar (chars d member)
  rw [mapFirst, List.all_append, later, Bool.and_true]

/-- In a name every word decides for itself, by its first letter. -/
theorem camelCase_parts_iff {words : List (List Char)}
    (chars : ∀ word ∈ words, ∃ c rest, word = c :: rest ∧ isWordChar c = true ∧
      ∀ d ∈ rest, isWordChar d = true) :
    (camelCase words).all isAttributePart = true ↔
      words.head?.bind List.head? ≠ some dottedCapital ∧
      ∀ word ∈ words.tail, ∀ c ∈ markedCapitals, word.head? ≠ some c := by
  cases words with
  | nil => simp [camelCase]
  | cons first later =>
    obtain ⟨own, others⟩ := List.forall_mem_cons.1 chars
    obtain ⟨c, rest, rfl, letter, plain⟩ := own
    have begins : (toLowerCase c).all isAttributePart = true ↔
        List.head? (c :: rest) ≠ some dottedCapital := by
      rw [toLowerCase_parts_iff letter, List.head?_cons, ne_eq, ne_eq, Option.some_inj]
    have goesOn : (later.flatMap (mapFirst toUpperCase)).all isAttributePart = true ↔
        ∀ word ∈ later, ∀ c ∈ markedCapitals, word.head? ≠ some c := by
      rw [List.all_flatMap, List.all_eq_true]
      apply forall₂_congr
      intro word member
      obtain ⟨d, rest, rfl, letter, plain⟩ := others word member
      rw [mapFirst_parts plain, toUpperCase_parts_iff letter, List.head?_cons]
      constructor
      · intro unmarked c marked same
        rw [← Option.some.inj same] at marked
        exact unmarked marked
      · intro apart marked
        exact apart d marked rfl
    rw [camelCase, List.all_append, mapFirst_parts plain, Bool.and_eq_true, begins, goesOn]
    rfl

theorem isAttributeName_camelCase {words : List (List Char)}
    (chars : ∀ word ∈ words, ∃ c rest, word = c :: rest ∧ isWordChar c = true ∧
      ∀ d ∈ rest, isWordChar d = true) {c : Char} {rest : List Char}
    (name : camelCase words = c :: rest) (noDigit : isNumeric c = false) :
    isAttributeName (String.ofList (c :: rest)) = (camelCase words).all isAttributePart := by
  have first : isWordChar c = true := by
    cases words with
    | nil => exact nomatch name
    | cons word later =>
      obtain ⟨d, others, rfl, letter, _⟩ := chars word List.mem_cons_self
      obtain ⟨small, marks, lower, begins⟩ := toLowerCase_begins letter
      rw [camelCase, mapFirst, lower] at name
      obtain ⟨rfl, _⟩ := List.cons.inj name
      exact begins
  have start : isAttributeStart c = true := by
    rw [isWordChar, isAlphanumeric, noDigit, Bool.or_false] at first
    rw [isAttributeStart, first, Bool.true_or]
  rw [isAttributeName, String.toList_ofList, name, List.all_cons,
    isAttributePart_of_isWordChar first]
  dsimp only
  rw [start]

/-- The name that a property gets can be written exactly if no mark comes into it with the case of a
letter; only then an attribute of this name is shown. -/
theorem attributeName_written_iff {property key : String}
    (named : attributeName? property = some key) :
    (isAttributeName key = true ↔ ¬ LosesName property) ∧
    ∀ extra value, (key, value) ∈ extra →
      ((∃ shown, (key, shown) ∈ Element.outlineExtra extra) ↔ ¬ LosesName property) := by
  have written : isAttributeName key = true ↔ ¬ LosesName property := by
    unfold attributeName? at named
    split at named
    · cases named
    · rename_i c rest name
      split at named
      · cases named
      · rename_i noDigit
        have chars := fun word => @word_chars (property.toList.takeWhile (· != '#')) word
        rw [← Option.some.inj named,
          isAttributeName_camelCase chars name (Bool.eq_false_iff.2 noDigit), camelCase_parts_iff chars]
        simp [LosesName]
  constructor
  · exact written
  · intro extra value given
    have among : key ∈ Dict.keys extra := List.mem_map_of_mem given
    have shown : (∃ shown, (key, shown) ∈ Element.outlineExtra extra) ↔
        key ∈ (Element.outlineExtra extra).map Prod.fst := by simp
    rw [shown, Element.outlineExtra_names, List.mem_filter, and_iff_right among, written]

theorem spaced_name_written :
    attributeName? "Has icon?#3:0" = some "hasIcon" ∧ isAttributeName "hasIcon" = true ∧
    ¬ LosesName "Has icon?#3:0" := by
  obtain ⟨⟨named, name⟩, _⟩ := button_names
  exact ⟨named, name, (attributeName_written_iff named).1.1 name⟩

/-- Two names that are given and cannot be written: a small letter with a mark, and a capital with one. -/
theorem marked_names_unwritten :
    attributeName? "\u0130con#1:0" = some "i\u0307con" ∧ isAttributeName "i\u0307con" = false ∧
    attributeName? "to \u01f0#1:0" = some "toJ\u030c" ∧ isAttributeName "toJ\u030c" = false := by
  decide +kernel

end DesignMarkup
