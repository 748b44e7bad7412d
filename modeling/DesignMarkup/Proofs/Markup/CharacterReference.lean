import DesignMarkup.Proofs.Markup.UniqueReading
import DesignMarkup.Proofs.Text.Literal
/-!
Texts and attribute values as a reader of the markup takes them. In braces stands a string literal of
the script; a text without braces and a value between double quotes may refer to characters by name
(`&amp;`) or by number (`&#38;`). So a text without braces is taken for itself exactly if it refers to
no character.
-/
namespace DesignMarkup.Markup
open Json Text

def digit? (base : Nat) (c : Char) : Option Nat := (hexDigit? c).filter (· < base)

def numeral? (base : Nat) (digits : List Char) : Option Nat :=
  if digits = [] then none
  else (digits.mapM (digit? base)).map (·.foldl (base * · + ·) 0)

/-- Surrogates are no characters. -/
def character? (n : Nat) : Option Char := if n.isValidChar then some (Char.ofNat n) else none

def cutAt? (mark : Char) (text : List Char) : Option (List Char × List Char) :=
  match text.dropWhile (· != mark) with
  | [] => none
  | _ :: after => some (text.takeWhile (· != mark), after)

theorem cutAt?_eq_some {mark : Char} {text body after : List Char} :
    cutAt? mark text = some (body, after) ↔ text = body ++ mark :: after ∧ mark ∉ body := by
  constructor
  · intro found
    unfold cutAt? at found
    split at found
    · cases found
    · rename_i d rest behind
      obtain ⟨rfl, rfl⟩ := Prod.mk.inj (Option.some.inj found)
      obtain rfl : d = mark := by
        have stop := List.head?_dropWhile_not (· != mark) text
        simpa [behind] using stop
      refine ⟨?_, fun inside => ?_⟩
      · rw [← behind, List.takeWhile_append_dropWhile]
      · simpa using List.mem_takeWhile_imp inside
  · rintro ⟨rfl, apart⟩
    have inside : ∀ d ∈ body, (d != mark) = true := fun d member =>
      bne_iff_ne.2 fun same => apart (same ▸ member)
    obtain ⟨before, behind⟩ :=
      takeWhile_token inside (stops_cons (s := after) (bne_self_eq_false mark))
    rw [cutAt?, behind, before]

section references
variable (names : String → Option Char)

def reference? : List Char → Option Char
  | [] => none
  | '#' :: 'x' :: digits => (numeral? 16 digits).bind character?
  | '#' :: digits => (numeral? 10 digits).bind character?
  | name => names (String.ofList name)

def referenceAt? (text : List Char) : Option (Char × List Char) :=
  (cutAt? ';' text).bind fun (body, after) => (reference? names body).map (·, after)

def Refers (text : List Char) : Prop :=
  ∃ before body after, text = before ++ '&' :: (body ++ ';' :: after) ∧ ';' ∉ body ∧
    (reference? names body).isSome

variable {names} {c : Char} {text rest after : List Char}

theorem referenceAt?_eq_some : referenceAt? names text = some (c, after) ↔
    ∃ body, text = body ++ ';' :: after ∧ ';' ∉ body ∧ reference? names body = some c := by
  rw [referenceAt?, Option.bind_eq_some_iff]
  constructor
  · rintro ⟨⟨body, _⟩, cut, named⟩
    obtain ⟨_, is, same⟩ := Option.map_eq_some_iff.1 named
    obtain ⟨rfl, rfl⟩ := Prod.mk.inj same
    obtain ⟨text, apart⟩ := cutAt?_eq_some.1 cut
    exact ⟨body, text, apart, is⟩
  · rintro ⟨body, text, apart, is⟩
    exact ⟨(body, after), cutAt?_eq_some.2 ⟨text, apart⟩, Option.map_eq_some_iff.2 ⟨c, is, rfl⟩⟩

theorem not_refers_nil : ¬ Refers names [] := by
  rintro ⟨before, _, _, text, _⟩
  exact List.append_ne_nil_of_right_ne_nil before (List.cons_ne_nil _ _) text.symm

theorem refers_cons : Refers names (c :: rest) ↔
    (c = '&' ∧ (referenceAt? names rest).isSome) ∨ Refers names rest := by
  simp only [Refers, Option.isSome_iff_exists]
  constructor
  · rintro ⟨before, body, after, text, apart, d, named⟩
    cases before with
    | nil =>
      obtain ⟨rfl, rfl⟩ := List.cons.inj text
      exact .inl ⟨rfl, (d, after), referenceAt?_eq_some.2 ⟨body, rfl, apart, named⟩⟩
    | cons _ before => exact .inr ⟨before, body, after, (List.cons.inj text).2, apart, d, named⟩
  · rintro (⟨rfl, ⟨d, after⟩, found⟩ | ⟨before, body, after, rfl, apart, named⟩)
    · obtain ⟨body, rfl, apart, named⟩ := referenceAt?_eq_some.1 found
      exact ⟨[], body, after, rfl, apart, d, named⟩
    · exact ⟨c :: before, body, after, rfl, apart, named⟩

instance Refers.decidable : (text : List Char) → Decidable (Refers names text)
  | [] => isFalse not_refers_nil
  | _ :: rest =>
    have := Refers.decidable rest
    decidable_of_iff _ refers_cons.symm

theorem referenceAt?_width (found : referenceAt? names rest = some (c, after)) :
    (Script.units (c :: after)).length < (Script.units ('&' :: rest)).length := by
  obtain ⟨body, rfl, -, named⟩ := referenceAt?_eq_some.1 found
  cases body with
  | nil => cases named
  | cons d body =>
    have narrow := Script.codeUnits_length_le c.toNat
    have wide := Script.codeUnits_length_pos d.toNat
    have ampersand := Script.codeUnits_length_pos '&'.toNat
    have semicolon := Script.codeUnits_length_pos ';'.toNat
    simp only [Script.units_cons, Script.units_append, List.cons_append, List.length_append]
    omega

theorem referenceAt?_shorter (found : referenceAt? names rest = some (c, after)) :
    after.length < rest.length := by
  obtain ⟨body, rfl, -⟩ := referenceAt?_eq_some.1 found
  rw [List.length_append, List.length_cons]
  omega

variable (names)

def dereference : List Char → List Char
  | [] => []
  | '&' :: rest =>
    match _found : referenceAt? names rest with
    | none => '&' :: dereference rest
    | some (c, after) => c :: dereference after
  | c :: rest => c :: dereference rest
termination_by text => text.length
decreasing_by
  · exact Nat.lt_succ_self _
  · exact Nat.lt_succ_of_lt (referenceAt?_shorter _found)
  · exact Nat.lt_succ_self _

variable {names}

theorem dereference_nil : dereference names [] = [] := by rw [dereference]

theorem dereference_cons : dereference names (c :: rest) =
    (if c = '&' then referenceAt? names rest else none).elim (c :: dereference names rest)
      fun (d, after) => d :: dereference names after := by
  split
  · rename_i ampersand
    obtain rfl := ampersand
    rw [dereference]
    cases referenceAt? names rest <;> rfl
  · rename_i other
    rw [dereference]
    · rfl
    · exact other

theorem dereference_found (found : referenceAt? names rest = some (c, after)) :
    dereference names ('&' :: rest) = c :: dereference names after := by
  rw [dereference_cons, if_pos rfl, found, Option.elim_some]

theorem dereference_other (other : c = '&' → referenceAt? names rest = none) :
    dereference names (c :: rest) = c :: dereference names rest := by
  rw [dereference_cons]
  split
  · rename_i ampersand
    rw [other ampersand, Option.elim_none]
  · rw [Option.elim_none]

theorem dereference_free (free : ¬ Refers names text) : dereference names text = text := by
  induction text with
  | nil => exact dereference_nil
  | cons c rest ih =>
    rw [refers_cons, not_or] at free
    rw [dereference_other, ih free.2]
    intro ampersand
    exact Option.not_isSome_iff_eq_none.1 fun found => free.1 ⟨ampersand, found⟩

theorem units_cons_lt {short long : List Char}
    (narrow : (Script.units short).length < (Script.units long).length) (c : Char) :
    (Script.units (c :: short)).length < (Script.units (c :: long)).length := by
  rw [Script.units_cons, Script.units_cons, List.length_append, List.length_append]
  exact Nat.add_lt_add_left narrow _

/-- No character is as wide as a reference to it, so that references leave their trace in the width. -/
theorem dereference_narrows (refers : Refers names text) :
    (Script.units (dereference names text)).length < (Script.units text).length := by
  induction text using dereference.induct names with
  | case1 => exact absurd refers not_refers_nil
  | case2 rest missing ih =>
    rw [dereference_other fun _ => missing]
    rcases refers_cons.1 refers with ⟨-, found⟩ | later
    · rw [missing] at found
      cases found
    · exact units_cons_lt (ih later) _
  | case3 rest d after found ih =>
    rw [dereference_found found]
    by_cases more : Refers names after
    · exact Nat.lt_trans (units_cons_lt (ih more) d) (referenceAt?_width found)
    · rw [dereference_free more]
      exact referenceAt?_width found
  | case4 c rest other ih =>
    rw [dereference_other fun ampersand => absurd ampersand other]
    exact units_cons_lt (ih ((refers_cons.1 refers).resolve_left fun here => other here.1)) c

theorem units_dereference_iff :
    Script.units (dereference names text) = Script.units text ↔ ¬ Refers names text := by
  constructor
  · intro same refers
    exact Nat.ne_of_lt (dereference_narrows refers) (congrArg List.length same)
  · intro free
    rw [dereference_free free]

end references

def readBraced : List Char → Option (List Nat × List Char)
  | '"' :: literal =>
    match Script.readTo '"' literal with
    | some (value, '\x7d' :: after) => some (value, after)
    | _ => none
  | _ => none

theorem readBraced_quoteChars (text rest : List Char) :
    readBraced (quoteChars text ++ '\x7d' :: rest) = some (Script.units text, rest) := by
  rw [quoteChars, List.append_assoc, List.cons_append, List.singleton_append, readBraced,
    Script.readTo_quoted]
  rfl

def isChildChar (c : Char) : Bool := c ∉ ['\x7b', '\x7d', '<', '>']

section readers
variable (names : String → Option Char)

def readChild (text : List Char) : Option (List Nat × List Char) :=
  match text with
  | '\x7b' :: inner => readBraced inner
  | _ => some (Script.units (dereference names (text.takeWhile isChildChar)),
      text.dropWhile isChildChar)

def readValue : List Char → Option (List Nat × List Char)
  | '\x7b' :: inner => readBraced inner
  | '"' :: inner =>
    (cutAt? '"' inner).map fun (raw, after) => (Script.units (dereference names raw), after)
  | _ => none

def readAttribute (key : String) (text : List Char) : Option (List Nat × List Char) :=
  (text.dropPrefix? (key.toList ++ ['='])).bind (readValue names)

/-- What a reader takes the text for if it is written in braces just for these marks. -/
def takenFor (marks : List Char) (s : String) : List Char :=
  if needsBraces marks s then s.toList else dereference names s.toList

theorem units_takenFor_iff {names : String → Option Char} {marks : List Char} {s : String} :
    Script.units (takenFor names marks s) = Script.units s.toList ↔
      needsBraces marks s = true ∨ ¬ Refers names s.toList := by
  rw [takenFor]
  split
  · rename_i braces
    exact iff_of_true rfl (.inl braces)
  · rename_i bare
    rw [units_dereference_iff, or_iff_right bare]

theorem readChild_textContent (s : String) {rest : List Char} (ends : GoesOn '<' rest) :
    readChild names ((textContent s).toList ++ rest) =
      some (Script.units (takenFor names textMarks s), rest) := by
  by_cases braces : needsBraces textMarks s = true
  · rw [textContent_braced braces, takenFor, if_pos braces, bracedChars, List.append_assoc,
      List.cons_append]
    exact readBraced_quoteChars _ _
  · have inside : ∀ c ∈ s.toList, isChildChar c = true := by
      intro c member
      refine decide_eq_true fun mark => ?_
      have isMark : c ∈ textMarks :=
        (by decide : ['\x7b', '\x7d', '<', '>'] ⊆ textMarks) mark
      exact absurd rfl (bne_iff_ne.1 (not_mem_of_bare braces isMark c member))
    obtain ⟨raw, behind⟩ := takeWhile_token inside (ends.stops (by decide))
    rw [textContent_bare braces, takenFor, if_neg braces, readChild, raw, behind]
    rintro inner text
    exact bare_begins braces (by decide) (by decide) ends (text ▸ goesOn_cons.2 rfl)

theorem readValue_stringChars (s : String) (rest : List Char) :
    readValue names (stringChars s ++ rest) =
      some (Script.units (takenFor names stringMarks s), rest) := by
  rw [stringChars, takenFor]
  split
  · rw [bracedChars, List.append_assoc, List.cons_append]
    exact readBraced_quoteChars _ _
  · rename_i bare
    have apart : '"' ∉ s.toList := fun member =>
      absurd rfl (bne_iff_ne.1 (not_mem_of_bare bare (by decide) '"' member))
    rw [List.append_assoc, List.cons_append, List.singleton_append, readValue,
      cutAt?_eq_some.2 ⟨rfl, apart⟩]
    rfl

theorem readAttribute_stringAttribute (key s : String) (rest : List Char) :
    readAttribute names key ((stringAttribute key s).toList ++ rest) =
      some (Script.units (takenFor names stringMarks s), rest) := by
  have written : (stringAttribute key s).toList = key.toList ++ ['='] ++ stringChars s := by
    rw [stringAttribute_toList, List.append_assoc, List.singleton_append]
  rw [readAttribute, written, List.append_assoc, List.dropPrefix?_append_of_beq _ (beq_self_eq_true _),
    Option.bind_some, readValue_stringChars]

/-- A text, and a value of an attribute, is read as the text that it was written from exactly if it is
in braces or refers to no character. -/
theorem shown_text_reads_back_iff (key s : String) (rest : List Char) :
    (readChild names ((textContent s).toList ++ '<' :: rest) =
        some (Script.units s.toList, '<' :: rest) ↔
      needsBraces textMarks s = true ∨ ¬ Refers names s.toList) ∧
    (readAttribute names key ((stringAttribute key s).toList ++ rest) =
        some (Script.units s.toList, rest) ↔
      needsBraces stringMarks s = true ∨ ¬ Refers names s.toList) := by
  rw [readChild_textContent names s (goesOn_cons.2 rfl), readAttribute_stringAttribute,
    ← units_takenFor_iff, ← units_takenFor_iff]
  simp only [Option.some.injEq, Prod.mk.injEq, and_true, and_self]

end readers

def basicNames (name : String) : Option Char :=
  [("amp", '&'), ("apos", '\''), ("gt", '>'), ("lt", '<'), ("quot", '"')].lookup name

theorem ampersand_misread : textContent "R&amp;D" = "R&amp;D" ∧
    stringAttribute "alt" "R&amp;D" = "alt=\"R&amp;D\"" ∧
    readChild basicNames ((textContent "R&amp;D").toList ++ "</p>".toList) =
      some (Script.units "R&D".toList, "</p>".toList) ∧
    readAttribute basicNames "alt" ((stringAttribute "alt" "R&amp;D").toList ++ " />".toList) =
      some (Script.units "R&D".toList, " />".toList) ∧
    Script.units "R&D".toList ≠ Script.units "R&amp;D".toList := by
  have taken : dereference basicNames "R&amp;D".toList = "R&D".toList := by
    have found : referenceAt? basicNames "amp;D".toList = some ('&', ['D']) := by decide
    have free : ¬ Refers basicNames ['D'] := by decide
    have plain : 'R' ≠ '&' := by decide
    change dereference basicNames ('R' :: '&' :: "amp;D".toList) = ['R', '&', 'D']
    rw [dereference_other fun same => absurd same plain, dereference_found found,
      dereference_free free]
  have bare (marks : List Char) (none : needsBraces marks "R&amp;D" = false) :
      takenFor basicNames marks "R&amp;D" = "R&D".toList := by
    rw [takenFor, none, if_neg Bool.false_ne_true, taken]
  refine ⟨by decide, by decide, ?_, ?_, by decide⟩
  · have ends : GoesOn '<' "</p>".toList := goesOn_cons.2 rfl
    rw [readChild_textContent basicNames _ ends, bare _ (by decide)]
  · rw [readAttribute_stringAttribute, bare _ (by decide)]

end DesignMarkup.Markup
