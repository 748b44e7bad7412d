import DesignMarkup.Proofs.Markup.CharacterReference
/-!
References to characters in the text of an HTML element. Other than in markup of a script, the
semicolon may be left out, the longest name counts, and a name may stand for two characters. No
reference is as short as what it stands for.
-/
namespace DesignMarkup.Html
open Markup (digit? numeral?)

/-- Numbers of controls that stand for the characters of an older code page. -/
def controls : List (Nat × Nat) :=
  [(0x80, 0x20AC), (0x82, 0x201A), (0x83, 0x0192), (0x84, 0x201E), (0x85, 0x2026), (0x86, 0x2020),
    (0x87, 0x2021), (0x88, 0x02C6), (0x89, 0x2030), (0x8A, 0x0160), (0x8B, 0x2039), (0x8C, 0x0152),
    (0x8E, 0x017D), (0x91, 0x2018), (0x92, 0x2019), (0x93, 0x201C), (0x94, 0x201D), (0x95, 0x2022),
    (0x96, 0x2013), (0x97, 0x2014), (0x98, 0x02DC), (0x99, 0x2122), (0x9A, 0x0161), (0x9B, 0x203A),
    (0x9C, 0x0153), (0x9E, 0x017E), (0x9F, 0x0178)]

def replacement : Char := '\uFFFD'

def numbered (n : Nat) : Char :=
  let n := (controls.lookup n).getD n
  if n ≠ 0 ∧ n.isValidChar then Char.ofNat n else replacement

def pastSemicolon : List Char → List Char
  | ';' :: after => after
  | after => after

def numberAt? (base : Nat) (text : List Char) : Option (List Char × List Char) :=
  (numeral? base (text.takeWhile (digit? base · |>.isSome))).map fun n =>
    ([numbered n], pastSemicolon (text.dropWhile (digit? base · |>.isSome)))

section references
-- A name is looked up with its semicolon if it has one.
variable (names : String → Option (Char × Option Char))

/-- The longest name that the text begins with counts; no name has only one character. -/
def nameAt? (text : List Char) : Option (List Char × List Char) :=
  (List.range' 2 (text.length - 1)).reverse.findSome? fun n =>
    (names (String.ofList (text.take n))).map fun (c, second) => (c :: second.toList, text.drop n)

def referenceAt? : List Char → Option (List Char × List Char)
  | '#' :: 'x' :: text => numberAt? 16 text
  | '#' :: 'X' :: text => numberAt? 16 text
  | '#' :: text => numberAt? 10 text
  | text => nameAt? names text

def first (c : Char) (rest : List Char) : List Char × List Char :=
  (if c = '&' then referenceAt? names rest else none).getD ([c], rest)

def Refers (text : List Char) : Prop :=
  ∃ before rest, text = before ++ '&' :: rest ∧ (referenceAt? names rest).isSome

variable {names} {base : Nat} {c : Char} {text rest shown after : List Char}

theorem refers_cons : Refers names (c :: rest) ↔
    (c = '&' ∧ (referenceAt? names rest).isSome) ∨ Refers names rest := by
  constructor
  · rintro ⟨before, behind, text, found⟩
    cases before with
    | nil =>
      obtain ⟨rfl, rfl⟩ := List.cons.inj text
      exact .inl ⟨rfl, found⟩
    | cons _ before => exact .inr ⟨before, behind, (List.cons.inj text).2, found⟩
  · rintro (⟨rfl, found⟩ | ⟨before, behind, rfl, found⟩)
    · exact ⟨[], rest, rfl, found⟩
    · exact ⟨c :: before, behind, rfl, found⟩

theorem not_refers_nil : ¬ Refers names [] := by
  rintro ⟨before, _, text, _⟩
  exact List.append_ne_nil_of_right_ne_nil before (List.cons_ne_nil _ _) text.symm

instance Refers.decidable : (text : List Char) → Decidable (Refers names text)
  | [] => isFalse not_refers_nil
  | _ :: rest =>
    have := Refers.decidable rest
    decidable_of_iff _ refers_cons.symm

theorem pastSemicolon_length_le (text : List Char) : (pastSemicolon text).length ≤ text.length := by
  unfold pastSemicolon
  split
  · exact Nat.le_succ _
  · exact Nat.le_refl _

theorem numberAt?_length (found : numberAt? base text = some (shown, after)) :
    shown.length + after.length ≤ text.length := by
  obtain ⟨n, numeral, same⟩ := Option.map_eq_some_iff.1 found
  obtain ⟨rfl, rfl⟩ := Prod.mk.inj same
  have digits : text.takeWhile (digit? base · |>.isSome) ≠ [] := by
    intro none
    rw [none, numeral?, if_pos rfl] at numeral
    cases numeral
  have parts := congrArg List.length
    (List.takeWhile_append_dropWhile (l := text) (p := (digit? base · |>.isSome)))
  have short := pastSemicolon_length_le (text.dropWhile (digit? base · |>.isSome))
  have least := List.length_pos_iff.2 digits
  rw [List.length_append] at parts
  rw [List.length_singleton]
  omega

theorem nameAt?_length (found : nameAt? names text = some (shown, after)) :
    shown.length + after.length ≤ text.length := by
  obtain ⟨n, tried, named⟩ := List.exists_of_findSome?_eq_some found
  obtain ⟨⟨c, second⟩, _, same⟩ := Option.map_eq_some_iff.1 named
  obtain ⟨rfl, rfl⟩ := Prod.mk.inj same
  rw [List.mem_reverse, List.mem_range'_1] at tried
  have few : second.toList.length ≤ 1 := Option.length_toList_le
  rw [List.length_cons, List.length_drop]
  omega

theorem referenceAt?_length (found : referenceAt? names rest = some (shown, after)) :
    shown.length + after.length ≤ rest.length := by
  unfold referenceAt? at found
  split at found
  · exact Nat.le_add_right_of_le (Nat.le_add_right_of_le (numberAt?_length found))
  · exact Nat.le_add_right_of_le (Nat.le_add_right_of_le (numberAt?_length found))
  · exact Nat.le_add_right_of_le (numberAt?_length found)
  · exact nameAt?_length found

theorem first_found (found : referenceAt? names rest = some (shown, after)) :
    first names '&' rest = (shown, after) := by
  rw [first, if_pos rfl, found, Option.getD_some]

theorem first_other (other : ¬ (c = '&' ∧ (referenceAt? names rest).isSome)) :
    first names c rest = ([c], rest) := by
  unfold first
  split
  · rename_i ampersand
    have none := Option.not_isSome_iff_eq_none.1 fun found => other ⟨ampersand, found⟩
    rw [none, Option.getD_none]
  · rfl

theorem first_shorter (c : Char) (rest : List Char) :
    (first names c rest).2.length ≤ rest.length := by
  by_cases here : c = '&' ∧ (referenceAt? names rest).isSome
  · obtain ⟨rfl, found⟩ := here
    obtain ⟨⟨shown, after⟩, found⟩ := Option.isSome_iff_exists.1 found
    rw [first_found found]
    exact Nat.le_trans (Nat.le_add_left _ _) (referenceAt?_length found)
  · rw [first_other here]

variable (names)

def dereference : List Char → List Char
  | [] => []
  | c :: rest => (first names c rest).1 ++ dereference (first names c rest).2
termination_by text => text.length
decreasing_by exact Nat.lt_succ_of_le (first_shorter c rest)

variable {names}

theorem dereference_found (found : referenceAt? names rest = some (shown, after)) :
    dereference names ('&' :: rest) = shown ++ dereference names after := by
  rw [dereference, first_found found]

theorem dereference_other (other : ¬ (c = '&' ∧ (referenceAt? names rest).isSome)) :
    dereference names (c :: rest) = c :: dereference names rest := by
  rw [dereference, first_other other]
  rfl

theorem dereference_free (free : ¬ Refers names text) : dereference names text = text := by
  induction text with
  | nil => rw [dereference]
  | cons c rest ih =>
    rw [refers_cons, not_or] at free
    rw [dereference_other free.1, ih free.2]

/-- References leave their trace in the length. -/
theorem dereference_shorter (refers : Refers names text) :
    (dereference names text).length < text.length := by
  induction text using dereference.induct names with
  | case1 => exact absurd refers not_refers_nil
  | case2 c rest ih =>
    by_cases here : c = '&' ∧ (referenceAt? names rest).isSome
    · obtain ⟨rfl, found⟩ := here
      obtain ⟨⟨shown, after⟩, found⟩ := Option.isSome_iff_exists.1 found
      have narrow := referenceAt?_length found
      rw [first_found found] at ih
      rw [dereference_found found, List.length_append, List.length_cons]
      by_cases more : Refers names after
      · have shorter : (dereference names after).length < after.length := ih more
        omega
      · rw [dereference_free more]
        omega
    · rw [first_other here] at ih
      rw [dereference_other here, List.length_cons, List.length_cons]
      exact Nat.succ_lt_succ (ih ((refers_cons.1 refers).resolve_left here))

theorem dereference_length_le (text : List Char) :
    (dereference names text).length ≤ text.length := by
  by_cases refers : Refers names text
  · exact Nat.le_of_lt (dereference_shorter refers)
  · rw [dereference_free refers]

end references

/-- The names of the characters that markup itself is made of, among the many that there are. -/
def markupNames (name : String) : Option (Char × Option Char) :=
  ([("amp", '&'), ("amp;", '&'), ("gt", '>'), ("gt;", '>'), ("lt", '<'), ("lt;", '<'),
    ("quot", '"'), ("quot;", '"')].lookup name).map (·, none)

example : Refers markupNames "R&ampD".toList ∧ ¬ Refers markupNames "R&D".toList := by decide

end DesignMarkup.Html
