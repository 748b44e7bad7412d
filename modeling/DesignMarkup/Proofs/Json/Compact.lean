import DesignMarkup.Json.Printer
import DesignMarkup.Proofs.Decimal.Text
import DesignMarkup.Proofs.Json.Record
/-!
The text of a JSON value shows which value it is and where it ends. A number or a name ends where
none of its characters follows; any other value ends with its own last character.
-/
namespace DesignMarkup.Json
open Text

def escaped : List Char := ['"', '\\'] ++ (List.range 32).map Char.ofNat

theorem escapedChar_plain {c : Char} (plain : c ∉ escaped) : escapedChar c = [c] := by
  have high : ¬ c.toNat < 32 := fun low => plain <| List.mem_append_right _ <|
    List.mem_map.2 ⟨c.toNat, List.mem_range.2 low, Char.ofNat_toNat c⟩
  unfold escapedChar
  split <;> first
    | exact absurd (by decide) plain
    | rw [if_neg (by omega), if_neg high]

theorem flatMap_escapedChar_plain {s : List Char} (plain : ∀ c ∈ s, c ∉ escaped) :
    s.flatMap escapedChar = s := by
  have verbatim : s.flatMap escapedChar = s.flatMap fun c => [c] :=
    List.flatMap_congr fun c member => escapedChar_plain (plain c member)
  rw [verbatim, List.flatMap_singleton']

theorem escapedChar_escaped {c : Char} (member : c ∈ escaped) :
    ∃ d rest, escapedChar c = '\\' :: d :: rest := by
  have long : escaped.all (fun c => (escapedChar c).take 1 == ['\\'] && 1 < (escapedChar c).length) =
      true := by decide +kernel
  have own := List.all_eq_true.1 long c member
  rw [Bool.and_eq_true, beq_iff_eq, decide_eq_true_iff] at own
  obtain ⟨first, two⟩ := own
  match h : escapedChar c with
  | [] | [_] => simp [h] at two
  | _ :: d :: rest =>
    rw [h] at first
    obtain rfl : _ = '\\' := by simpa using first
    exact ⟨d, rest, rfl⟩

theorem escapedChar_prefixFree (a b : Char) (starts : escapedChar a <+: escapedChar b) : a = b := by
  have among : escaped.all (fun a => escaped.all fun b =>
      !(escapedChar a).isPrefixOf (escapedChar b) || a == b) = true := by decide +kernel
  by_cases ha : a ∈ escaped <;> by_cases hb : b ∈ escaped
  · have own := List.all_eq_true.1 (List.all_eq_true.1 among a ha) b hb
    rwa [List.isPrefixOf_iff_prefix.2 starts, Bool.not_true, Bool.false_or, beq_iff_eq] at own
  · obtain ⟨d, rest, text⟩ := escapedChar_escaped ha
    rw [text, escapedChar_plain hb] at starts
    simpa using starts.length_le
  · obtain ⟨d, rest, text⟩ := escapedChar_escaped hb
    rw [text, escapedChar_plain ha, List.cons_prefix_cons] at starts
    exact absurd (starts.1 ▸ (by decide : '\\' ∈ escaped)) ha
  · rw [escapedChar_plain ha, escapedChar_plain hb, List.cons_prefix_cons] at starts
    exact starts.1

theorem escapedChar_begins (c : Char) : ∃ d rest, escapedChar c = d :: rest ∧ d ≠ '"' := by
  by_cases member : c ∈ escaped
  · obtain ⟨d, rest, text⟩ := escapedChar_escaped member
    exact ⟨'\\', d :: rest, text, by decide⟩
  · refine ⟨c, [], escapedChar_plain member, ?_⟩
    rintro rfl
    exact member (by decide)

theorem quoteChars_splits (text : List Char) : Splits always quoteChars always text := by
  intro other _ s t _ _ same
  simp only [quoteChars, List.cons_append, List.append_assoc, List.cons.injEq, true_and,
    List.nil_append] at same
  have each (c : Char) (_ : c ∈ text) : Splits always escapedChar always c :=
    splits_of_prefixFree escapedChar_prefixFree c
  have apart (c : Char) (s : List Char) (_ : always c) : ¬ GoesOn '"' (escapedChar c ++ s) := by
    obtain ⟨d, rest, text, other⟩ := escapedChar_begins c
    rw [text, List.cons_append, goesOn_cons]
    exact other
  obtain ⟨rfl, rest⟩ := row_split each (fun _ _ _ => trivial) (fun _ _ => trivial) apart
    (fun _ _ => trivial) (fun _ _ => trivial) (goesOn_cons.2 rfl) (goesOn_cons.2 rfl) same
  exact ⟨rfl, (List.cons.inj rest).2⟩

inductive Form where
  | scalar
  | string
  | array
  | object
deriving DecidableEq

def isScalarChar (c : Char) : Bool := c.isAlphanum || c == '-' || c == '+' || c == '.'

def Form.ofChar? (c : Char) : Option Form :=
  if isScalarChar c then some scalar
  else if c = '"' then some string
  else if c = '[' then some array
  else if c = '\x7b' then some object
  else none

def form : Json → Form
  | .string _ => .string
  | .array _ => .array
  | .object _ => .object
  | _ => .scalar

theorem intText_chars (n : Int) : ∀ c ∈ (toString n).toList, (c.isDigit || c == '-') = true := by
  have digits (m : Nat) : ∀ c ∈ m.repr.toList, (c.isDigit || c == '-') = true := by
    intro c member
    rw [Nat.toList_repr] at member
    rw [Decimal.allDigits_toDigits m c member, Bool.true_or]
  rw [Int.toString_eq_repr, Int.repr_eq_if]
  split
  · exact digits _
  · rw [String.toList_append]
    exact List.forall_mem_append.2 ⟨List.all_eq_true.1 rfl, digits _⟩

theorem intText_ne_nil (n : Int) : (toString n).toList ≠ [] := by
  rw [Int.toString_eq_repr, Int.repr_eq_if]
  split
  · rw [Nat.toList_repr]
    exact Nat.toDigits_ne_nil
  · simp

theorem natText_injective {m n : Nat} (same : m.repr.toList = n.repr.toList) : m = n := by
  rw [Nat.toList_repr, Nat.toList_repr] at same
  rw [← @Nat.ofDigitChars_ten_toDigits m, same, Nat.ofDigitChars_ten_toDigits]

theorem intText_injective {m n : Int} (same : (toString m).toList = (toString n).toList) : m = n := by
  have unsigned {k l : Nat} : k.repr.toList ≠ "-".toList ++ l.repr.toList := fun same =>
    nomatch Decimal.allDigits_toDigits k '-' (by rw [← Nat.toList_repr, same]; exact List.mem_cons_self)
  rw [Int.toString_eq_repr, Int.toString_eq_repr, Int.repr_eq_if, Int.repr_eq_if] at same
  split at same <;> split at same
  · have := natText_injective same
    omega
  · rw [String.toList_append] at same
    exact absurd same unsigned
  · rw [String.toList_append] at same
    exact absurd same.symm unsigned
  · rw [String.toList_append, String.toList_append] at same
    have := natText_injective (List.append_cancel_left same)
    omega

theorem isScalarChar_of_isNumeralChar {c : Char} (h : Decimal.isNumeralChar c = true) :
    isScalarChar c = true := by
  simp only [Decimal.isNumeralChar, Bool.or_eq_true, beq_iff_eq] at h
  rcases h with (((digit | rfl) | rfl) | rfl) | rfl
  · simp [isScalarChar, Char.isAlphanum, digit]
  all_goals decide

theorem floatText_finite {x : Float} (finite : x.isFinite = true) :
    floatText x = Decimal.jsonLayout.write x := if_pos finite

theorem isNumeralChar_of_int {c : Char} (h : (c.isDigit || c == '-') = true) :
    Decimal.isNumeralChar c = true := by
  rw [Decimal.isNumeralChar, h]
  rfl

structure Token (text : List Char) : Prop where
  chars : ∀ c ∈ text, isScalarChar c = true
  nonempty : text ≠ []

theorem token_of_all {text : List Char} (chars : text.all isScalarChar = true)
    (nonempty : text ≠ []) : Token text := ⟨List.all_eq_true.1 chars, nonempty⟩

theorem Token.begins {text : List Char} (h : Token text) :
    ∃ c rest, text = c :: rest ∧ Form.ofChar? c = some .scalar := by
  obtain ⟨c, rest, rfl⟩ := List.exists_cons_of_ne_nil h.nonempty
  exact ⟨c, rest, rfl, if_pos (h.chars c List.mem_cons_self)⟩

theorem intText_token (n : Int) : Token (toString n).toList where
  chars c member := isScalarChar_of_isNumeralChar (isNumeralChar_of_int (intText_chars n c member))
  nonempty := intText_ne_nil n

theorem scalar_token {j : Json} (scalar : j.form = .scalar) : Token (compactChars j) := by
  cases j with
  | null => exact token_of_all rfl (by decide)
  | bool b => cases b <;> exact token_of_all rfl (by decide)
  | int n => exact intText_token n
  | float x =>
    rw [compactChars]
    by_cases finite : x.isFinite = true
    · rw [floatText_finite finite]
      obtain ⟨inside, marked⟩ := Decimal.write_chars finite
      refine ⟨fun c member => isScalarChar_of_isNumeralChar (inside c member), fun none => ?_⟩
      simp [none] at marked
    · rw [floatText, if_neg finite]
      exact token_of_all rfl (by decide)
  | string | array | object => exact nomatch scalar

theorem compact_begins (j : Json) :
    ∃ c rest, compactChars j = c :: rest ∧ Form.ofChar? c = some j.form := by
  by_cases scalar : j.form = .scalar
  · rw [scalar]
    exact (scalar_token scalar).begins
  · cases j with
    | string | array | object => exact ⟨_, _, rfl, rfl⟩
    | null | bool | int | float => exact absurd rfl scalar

theorem same_form {a b : Json} {s t : List Char} (same : compactChars a ++ s = compactChars b ++ t) :
    a.form = b.form := by
  obtain ⟨c, _, textA, formA⟩ := compact_begins a
  obtain ⟨d, _, textB, formB⟩ := compact_begins b
  rw [textA, textB, List.cons_append, List.cons_append] at same
  rw [(List.cons.inj same).1, formB] at formA
  exact (Option.some.inj formA).symm

theorem compact_apart {mark : Char} (other : Form.ofChar? mark = none) (j : Json) (s : List Char) :
    ¬ GoesOn mark (compactChars j ++ s) := by
  obtain ⟨c, _, text, form⟩ := compact_begins j
  rw [text, List.cons_append, goesOn_cons]
  rintro rfl
  exact nomatch other ▸ form

def named? (text : List Char) : Option Json :=
  if text = "null".toList then some .null
  else if text = "true".toList then some (.bool true)
  else if text = "false".toList then some (.bool false)
  else none

theorem named?_number {text : List Char} (inside : ∀ c ∈ text, Decimal.isNumeralChar c = true) :
    named? text = none := by
  have other {name : List Char} (letter : name.all Decimal.isNumeralChar = false) : text ≠ name := by
    rintro rfl
    exact Bool.false_ne_true (letter ▸ List.all_eq_true.2 inside)
  rw [named?, if_neg (other rfl), if_neg (other rfl), if_neg (other rfl)]

theorem named?_int (n : Int) : named? (compactChars (.int n)) = none :=
  named?_number fun c member => isNumeralChar_of_int (intText_chars n c member)

theorem named?_float {x : Float} (finite : x.isFinite = true) :
    named? (compactChars (.float x)) = none := by
  rw [compactChars, floatText_finite finite]
  exact named?_number (Decimal.write_chars finite).1

theorem named?_bool (b : Bool) : named? (compactChars (.bool b)) = some (.bool b) := by
  cases b <;> rfl

theorem intText_ne_floatText (n : Int) {x : Float} (finite : x.isFinite = true) :
    compactChars (.int n) ≠ compactChars (.float x) := by
  intro same
  have inside : ∀ c ∈ compactChars (.float x), (c.isDigit || c == '-') = true := same ▸ intText_chars n
  rw [compactChars, floatText_finite finite] at inside
  rcases (Decimal.write_chars finite).2 with member | member <;> exact nomatch inside _ member

theorem scalar_injective {a b : Json} (scalarA : a.form = .scalar) (scalarB : b.form = .scalar)
    (standardA : a.standard = true) (standardB : b.standard = true)
    (same : compactChars a = compactChars b) : a = b := by
  have names := congrArg named? same
  cases a with
  | null =>
    cases b with
    | null => rfl
    | bool b => rw [named?_bool] at names; exact Option.some.inj names
    | int n => rw [named?_int] at names; exact nomatch names
    | float y => rw [named?_float standardB] at names; exact nomatch names
    | string | array | object => exact nomatch scalarB
  | bool a =>
    rw [named?_bool] at names
    cases b with
    | null => exact Option.some.inj names
    | bool b => rw [named?_bool] at names; exact Option.some.inj names
    | int n => rw [named?_int] at names; exact nomatch names
    | float y => rw [named?_float standardB] at names; exact nomatch names
    | string | array | object => exact nomatch scalarB
  | int m =>
    rw [named?_int] at names
    cases b with
    | null => exact nomatch names
    | bool b => rw [named?_bool] at names; exact nomatch names
    | int n => rw [intText_injective same]
    | float y => exact absurd same (intText_ne_floatText m standardB)
    | string | array | object => exact nomatch scalarB
  | float x =>
    rw [named?_float standardA] at names
    cases b with
    | null => exact nomatch names
    | bool b => rw [named?_bool] at names; exact nomatch names
    | int n => exact absurd same.symm (intText_ne_floatText n standardA)
    | float y =>
      rw [compactChars, compactChars, String.toList_inj, floatText_finite standardA,
        floatText_finite standardB] at same
      rw [Decimal.write_injective standardA standardB same]
    | string | array | object => exact nomatch scalarB
  | string | array | object => exact nomatch scalarA

theorem compactItems_eq (items : List Json) :
    compactItems items = [','].intercalate (items.map compactChars) := by
  induction items with
  | nil => rfl
  | cons v rest ih =>
    cases rest with
    | nil => simp [compactItems]
    | cons w rest => rw [compactItems, ih] <;> simp

def entryChars (entry : String × Json) : List Char :=
  quoteChars entry.1.toList ++ ':' :: compactChars entry.2

theorem compactEntries_eq (entries : List (String × Json)) :
    compactEntries entries = [','].intercalate (entries.map entryChars) := by
  induction entries with
  | nil => rfl
  | cons e rest ih =>
    cases rest with
    | nil => simp [compactEntries, entryChars]
    | cons f rest => rw [compactEntries, ih] <;> simp [entryChars]

abbrev Told (j : Json) : Prop :=
  Splits (fun v : Json => v.standard = true) compactChars (Stops isScalarChar) j

theorem told_scalar {a : Json} (scalar : a.form = .scalar) (standard : a.standard = true) : a.Told := by
  intro b standardB s t endA endB same
  have scalarB : b.form = .scalar := same_form same ▸ scalar
  obtain ⟨texts, rest⟩ :=
    token_split (scalar_token scalar).chars (scalar_token scalarB).chars endA endB same
  exact ⟨scalar_injective scalar scalarB standard standardB texts, rest⟩

theorem told_string (text : String) : (Json.string text).Told := by
  intro b standardB s t endA endB same
  have kind := same_form same
  cases b with
  | string other =>
    rw [compactChars, compactChars] at same
    obtain ⟨texts, rest⟩ := quoteChars_splits text.toList other.toList trivial s t trivial trivial same
    exact ⟨congrArg Json.string (String.toList_inj.1 texts), rest⟩
  | null | bool | int | float | array | object => cases kind

theorem told_array {items : List Json} (standard : (Json.array items).standard = true)
    (each : ∀ v ∈ items, v.Told) : (Json.array items).Told := by
  intro b standardB s t endA endB same
  have kind := same_form same
  cases b with
  | array others =>
    simp only [compactChars, compactItems_eq, List.cons_append, List.append_assoc, List.cons.injEq,
      true_and, List.nil_append] at same
    obtain ⟨rfl, rest⟩ := separated_split each (fun s => stops_cons rfl)
      (fun s (ends : GoesOn ']' s) => ends.stops rfl) (fun s => by simp [GoesOn])
      (fun v s _ => compact_apart rfl v s) (standardItems_iff.1 standard)
      (standardItems_iff.1 standardB) (goesOn_cons.2 rfl) (goesOn_cons.2 rfl) same
    exact ⟨rfl, (List.cons.inj rest).2⟩
  | null | bool | int | float | string | object => cases kind

theorem entry_splits {entry : String × Json} (value : entry.2.Told) :
    Splits (fun e : String × Json => e.2.standard = true) entryChars (Stops isScalarChar) entry := by
  obtain ⟨key, v⟩ := entry
  rintro ⟨otherKey, w⟩ standard s t endA endB same
  simp only [entryChars, List.append_assoc, List.cons_append] at same
  obtain ⟨keys, rest⟩ :=
    quoteChars_splits key.toList otherKey.toList trivial _ _ trivial trivial same
  obtain ⟨rfl, last⟩ := value w standard s t endA endB (List.cons.inj rest).2
  exact ⟨by rw [String.toList_inj.1 keys], last⟩

theorem told_object {entries : List (String × Json)} (standard : (Json.object entries).standard = true)
    (each : ∀ entry ∈ entries, entry.2.Told) : (Json.object entries).Told := by
  intro b standardB s t endA endB same
  have kind := same_form same
  cases b with
  | object others =>
    simp only [compactChars, compactEntries_eq, List.cons_append, List.append_assoc, List.cons.injEq,
      true_and, List.nil_append] at same
    have apart (e : String × Json) (s : List Char) (_ : e.2.standard = true) :
        ¬ GoesOn '\x7d' (entryChars e ++ s) := by simp [GoesOn, entryChars, quoteChars]
    obtain ⟨rfl, rest⟩ := separated_split (fun e member => entry_splits (each e member))
      (fun s => stops_cons rfl) (fun s (ends : GoesOn '\x7d' s) => ends.stops rfl)
      (fun s => by simp [GoesOn]) apart (standardEntries_iff.1 standard)
      (standardEntries_iff.1 standardB) (goesOn_cons.2 rfl) (goesOn_cons.2 rfl) same
    exact ⟨rfl, (List.cons.inj rest).2⟩
  | null | bool | int | float | string | array => cases kind

mutual

theorem told_value : ∀ j : Json, j.standard = true → j.Told
  | .null, standard => told_scalar rfl standard
  | .bool _, standard => told_scalar rfl standard
  | .int _, standard => told_scalar rfl standard
  | .float _, standard => told_scalar rfl standard
  | .string text, _ => told_string text
  | .array items, standard => told_array standard (told_items items standard)
  | .object entries, standard => told_object standard (told_entries entries standard)

theorem told_items : ∀ items : List Json, standardItems items = true → ∀ v ∈ items, v.Told
  | [], _ => nofun
  | v :: rest, standard => by
    rw [standardItems, Bool.and_eq_true] at standard
    exact List.forall_mem_cons.2 ⟨told_value v standard.1, told_items rest standard.2⟩

theorem told_entries : ∀ entries : List (String × Json), standardEntries entries = true →
    ∀ entry ∈ entries, entry.2.Told
  | [], _ => nofun
  | (_, v) :: rest, standard => by
    rw [standardEntries, Bool.and_eq_true] at standard
    exact List.forall_mem_cons.2 ⟨told_value v standard.1, told_entries rest standard.2⟩

end

end DesignMarkup.Json
