import DesignMarkup.Text.Basic
/-!
Names and string literals of the script that a module is. A literal between single quotes is read to
the UTF-16 code units that it stands for: a text in it stands for itself exactly if no quote, no
backslash and no line break is in the text.
-/
namespace DesignMarkup.Script

/-- The characters outside ASCII that a name starts with or goes on with (the Unicode properties
ID_Start and ID_Continue). -/
structure NameClasses where
  starts : Char → Bool
  continues : Char → Bool

def reservedWords : List String :=
  ["arguments", "await", "break", "case", "catch", "class", "const", "continue", "debugger", "default",
   "delete", "do", "else", "enum", "eval", "export", "extends", "false", "finally", "for", "function",
   "if", "implements", "import", "in", "instanceof", "interface", "let", "new", "null", "package",
   "private", "protected", "public", "return", "static", "super", "switch", "this", "throw", "true",
   "try", "typeof", "var", "void", "while", "with", "yield"]

namespace NameClasses
variable (classes : NameClasses)

def startsName (c : Char) : Bool :=
  if c.toNat < 0x80 then c.isAlpha || c == '_' || c == '$' else classes.starts c

def continuesName (c : Char) : Bool :=
  if c.toNat < 0x80 then c.isAlphanum || c == '_' || c == '$' else classes.continues c

def isIdentifier (name : String) : Bool :=
  name.toList.head?.any classes.startsName && name.toList.tail.all classes.continuesName &&
    name ∉ reservedWords

end NameClasses

def codeUnits (n : Nat) : List Nat :=
  if n < 0x10000 then [n] else [0xd800 + (n - 0x10000) / 0x400, 0xdc00 + (n - 0x10000) % 0x400]

def units (text : List Char) : List Nat := text.flatMap fun c => codeUnits c.toNat

def fixedHex? : Nat → Nat → List Char → Option (Nat × List Char)
  | 0, value, text => some (value, text)
  | count + 1, value, c :: rest =>
    (Text.hexDigit? c).bind fun digit => fixedHex? count (16 * value + digit) rest
  | _ + 1, _, [] => none

def bracedHex? (value : Nat) : List Char → Option (Nat × List Char)
  | [] => none
  | c :: rest =>
    if c = '\x7d' then some (value, rest)
    else (Text.hexDigit? c).bind fun digit => bracedHex? (16 * value + digit) rest

def isLineBreak (c : Char) : Bool :=
  c == '\n' || c == '\r' || c.toNat == 0x2028 || c.toNat == 0x2029

def namedEscapes : List (Char × Nat) :=
  [('b', 8), ('t', 9), ('n', 10), ('v', 11), ('f', 12), ('r', 13)]

/-- What a backslash before the text stands for, with the text after it. A module knows no octal
escapes. -/
def escape : List Char → Option (List Nat × List Char)
  | [] => none
  | '\r' :: '\n' :: rest => some ([], rest)
  | 'x' :: rest => (fixedHex? 2 0 rest).map fun (n, rest) => ([n], rest)
  | 'u' :: '\x7b' :: '\x7d' :: _ => none
  | 'u' :: '\x7b' :: rest =>
    ((bracedHex? 0 rest).filter (·.1 ≤ 0x10ffff)).map fun (n, rest) => (codeUnits n, rest)
  | 'u' :: rest => (fixedHex? 4 0 rest).map fun (n, rest) => ([n], rest)
  | '0' :: rest => if rest.head?.any Char.isDigit then none else some ([0], rest)
  | c :: rest =>
    if isLineBreak c then some ([], rest)
    else if c.isDigit then none
    else some ((namedEscapes.lookup c).elim (codeUnits c.toNat) ([·]), rest)

section width

@[simp] theorem units_nil : units [] = [] := rfl

@[simp] theorem units_cons (c : Char) (rest : List Char) :
    units (c :: rest) = codeUnits c.toNat ++ units rest := List.flatMap_cons

@[simp] theorem units_append (a b : List Char) : units (a ++ b) = units a ++ units b :=
  List.flatMap_append

theorem codeUnits_length_pos (n : Nat) : 0 < (codeUnits n).length := by
  unfold codeUnits
  split <;> simp

theorem codeUnits_length_le (n : Nat) : (codeUnits n).length ≤ 2 := by
  unfold codeUnits
  split <;> simp

theorem units_length_lt (c : Char) (rest : List Char) :
    (units rest).length < (units (c :: rest)).length := by
  rw [units_cons, List.length_append]
  exact Nat.lt_add_of_pos_left (codeUnits_length_pos _)

theorem fixedHex?_width {count value n : Nat} {text rest : List Char}
    (read : fixedHex? count value text = some (n, rest)) :
    count + (units rest).length ≤ (units text).length := by
  induction count generalizing value text with
  | zero =>
    obtain ⟨-, rfl⟩ := Prod.mk.inj (Option.some.inj read)
    exact Nat.le_of_eq (Nat.zero_add _)
  | succ count ih =>
    cases text with
    | nil => cases read
    | cons c text =>
      obtain ⟨digit, _, read⟩ := Option.bind_eq_some_iff.1 read
      have later := ih read
      have here := units_length_lt c text
      omega

theorem bracedHex?_width {value n : Nat} {text rest : List Char}
    (read : bracedHex? value text = some (n, rest)) : (units rest).length < (units text).length := by
  induction text generalizing value with
  | nil => cases read
  | cons c text ih =>
    have here := units_length_lt c text
    rw [bracedHex?] at read
    split at read
    · obtain ⟨-, rfl⟩ := Prod.mk.inj (Option.some.inj read)
      exact here
    · obtain ⟨digit, _, read⟩ := Option.bind_eq_some_iff.1 read
      exact Nat.lt_trans (ih read) here

theorem hexEscape_width {count : Nat} {text rest : List Char} {value : List Nat} (mark : Char)
    (read : (fixedHex? count 0 text).map (fun (n, rest) => ([n], rest)) = some (value, rest)) :
    value.length + (units rest).length ≤ (units (mark :: text)).length := by
  obtain ⟨⟨n, _⟩, digits, same⟩ := Option.map_eq_some_iff.1 read
  obtain ⟨rfl, rfl⟩ := Prod.mk.inj same
  have here := units_length_lt mark text
  have long := fixedHex?_width digits
  rw [List.length_singleton]
  omega

/-- An escape is no shorter than what it stands for, its backslash apart. -/
theorem escape_width {text rest : List Char} {value : List Nat}
    (read : escape text = some (value, rest)) :
    value.length + (units rest).length ≤ (units text).length := by
  unfold escape at read
  split at read
  · cases read
  · obtain ⟨rfl, rfl⟩ := Prod.mk.inj (Option.some.inj read)
    rename_i rest
    have breaks := Nat.lt_trans (units_length_lt '\n' rest) (units_length_lt '\r' _)
    rw [List.length_nil]
    omega
  · exact hexEscape_width 'x' read
  · cases read
  · rename_i text _
    obtain ⟨⟨n, _⟩, digits, same⟩ := Option.map_eq_some_iff.1 read
    obtain ⟨rfl, rfl⟩ := Prod.mk.inj same
    have marks := Nat.lt_trans (units_length_lt '\x7b' text) (units_length_lt 'u' _)
    have long := bracedHex?_width (Option.eq_some_of_filter_eq_some digits)
    have short := codeUnits_length_le n
    omega
  · exact hexEscape_width 'u' read
  · split at read
    · cases read
    · obtain ⟨rfl, rfl⟩ := Prod.mk.inj (Option.some.inj read)
      rw [List.length_singleton, Nat.add_comm]
      exact units_length_lt _ _
  · rename_i c text _ _ _ _ _ _
    split at read
    · obtain ⟨rfl, rfl⟩ := Prod.mk.inj (Option.some.inj read)
      rw [List.length_nil, Nat.zero_add]
      exact Nat.le_of_lt (units_length_lt c text)
    · split at read
      · cases read
      · obtain ⟨rfl, rfl⟩ := Prod.mk.inj (Option.some.inj read)
        rw [units_cons, List.length_append]
        have one := codeUnits_length_pos c.toNat
        cases namedEscapes.lookup c with
        | none => exact Nat.le_refl _
        | some n => exact Nat.add_le_add_right one _

end width

/-- Reads a literal on from its opening quote, to the text after the mark that closes it. -/
def readTo (mark : Char) : List Char → Option (List Nat × List Char)
  | [] => none
  | '\\' :: rest =>
    match _found : escape rest with
    | none => none
    | some (value, after) => (readTo mark after).map fun (more, after) => (value ++ more, after)
  | c :: rest =>
    if c = mark then some ([], rest)
    else if c = '\n' ∨ c = '\r' then none
    else (readTo mark rest).map fun (more, after) => (codeUnits c.toNat ++ more, after)
termination_by text => (units text).length
decreasing_by
  · have here := units_length_lt '\\' rest
    have escaped := escape_width _found
    omega
  · exact units_length_lt c rest

def read (text : List Char) : Option (List Nat × List Char) := readTo '\'' text

section readTo
variable {mark c : Char} {rest after : List Char} {value : List Nat}

theorem readTo_backslash : readTo mark ('\\' :: rest) = (escape rest).bind fun (value, after) =>
    (readTo mark after).map fun (more, after) => (value ++ more, after) := by
  rw [readTo]
  cases escape rest <;> rfl

theorem readTo_cons (other : c ≠ '\\') : readTo mark (c :: rest) =
    if c = mark then some ([], rest)
    else if c = '\n' ∨ c = '\r' then none
    else (readTo mark rest).map fun (more, after) => (codeUnits c.toNat ++ more, after) := by
  rw [readTo]
  exact other

theorem readTo_mark (other : mark ≠ '\\') : readTo mark (mark :: rest) = some ([], rest) := by
  rw [readTo_cons other, if_pos rfl]

theorem readTo_break (lineBreak : c = '\n' ∨ c = '\r') (apart : c ≠ mark) :
    readTo mark (c :: rest) = none := by
  have other : c ≠ '\\' := by rcases lineBreak with rfl | rfl <;> decide
  rw [readTo_cons other, if_neg apart, if_pos lineBreak]

theorem readTo_other (apart : c ∉ ['\\', mark, '\n', '\r']) : readTo mark (c :: rest) =
    (readTo mark rest).map fun (more, after) => (codeUnits c.toNat ++ more, after) := by
  simp only [List.mem_cons, List.not_mem_nil, or_false, not_or] at apart
  obtain ⟨other, unclosed, noBreak⟩ := apart
  rw [readTo_cons other, if_neg unclosed, if_neg (not_or.2 noBreak)]

theorem escape_then_width {first more : List Nat} {next : List Char}
    (escaped : escape rest = some (first, next))
    (later : more.length + (units after).length < (units next).length) :
    (first ++ more).length + (units after).length < (units rest).length := by
  have wide := escape_width escaped
  rw [List.length_append]
  omega

theorem readTo_width (closed : readTo mark rest = some (value, after)) :
    value.length + (units after).length < (units rest).length := by
  induction rest using readTo.induct mark generalizing value with
  | case1 =>
    rw [readTo] at closed
    cases closed
  | case2 rest refused =>
    rw [readTo_backslash, refused] at closed
    cases closed
  | case3 rest first next escaped ih =>
    rw [readTo_backslash, escaped] at closed
    obtain ⟨⟨more, _⟩, later, same⟩ := Option.map_eq_some_iff.1 closed
    obtain ⟨rfl, rfl⟩ := Prod.mk.inj same
    exact Nat.lt_trans (escape_then_width escaped (ih later)) (units_length_lt _ _)
  | case4 rest other =>
    rw [readTo_mark other] at closed
    obtain ⟨rfl, rfl⟩ := Prod.mk.inj (Option.some.inj closed)
    rw [List.length_nil, Nat.zero_add]
    exact units_length_lt _ _
  | case5 c rest other apart lineBreak =>
    rw [readTo_break lineBreak apart] at closed
    cases closed
  | case6 c rest other apart noBreak ih =>
    rw [readTo_cons other, if_neg apart, if_neg noBreak] at closed
    obtain ⟨⟨more, _⟩, later, same⟩ := Option.map_eq_some_iff.1 closed
    obtain ⟨rfl, rfl⟩ := Prod.mk.inj same
    have long := ih later
    rw [units_cons, List.length_append, List.length_append]
    omega

theorem readTo_escaped_width (closed : readTo mark ('\\' :: rest) = some (value, after)) :
    value.length + (units after).length < (units rest).length := by
  rw [readTo_backslash] at closed
  obtain ⟨⟨first, next⟩, escaped, closed⟩ := Option.bind_eq_some_iff.1 closed
  obtain ⟨⟨more, _⟩, later, same⟩ := Option.map_eq_some_iff.1 closed
  obtain ⟨rfl, rfl⟩ := Prod.mk.inj same
  exact escape_then_width escaped (readTo_width later)

end readTo

def Plain (text : List Char) : Prop := ∀ c ∈ text, c ∉ ['\'', '\\', '\n', '\r']

-- The characters of the text are looked at, and not all that there are.
instance (text : List Char) : Decidable (Plain text) := List.decidableBAll _ text

/-- The literal that has the text between its quotes is closed where the text ends and is read to the
text itself, exactly if the text is plain. -/
theorem read_iff {text after : List Char} :
    read (text ++ '\'' :: after) = some (units text, after) ↔ Plain text := by
  rw [read]
  induction text with
  | nil => exact iff_of_true (readTo_mark (by decide)) (List.forall_mem_nil _)
  | cons c text ih =>
    have one := codeUnits_length_pos c.toNat
    rw [Plain, List.forall_mem_cons, ← Plain, ← ih, List.cons_append]
    by_cases special : c ∈ ['\'', '\\', '\n', '\r']
    · refine iff_of_false (fun closed => ?_) fun plain => plain.1 special
      simp only [List.mem_cons, List.not_mem_nil, or_false] at special
      rcases special with rfl | rfl | lineBreak
      · rw [readTo_mark (by decide)] at closed
        obtain ⟨value, -⟩ := Prod.mk.inj (Option.some.inj closed)
        rw [units_cons] at value
        exact (List.ne_nil_of_length_pos one) (List.append_eq_nil_iff.1 value.symm).1
      · -- An escape is narrower than the text that it is written with.
        have narrow := readTo_escaped_width closed
        simp [codeUnits] at narrow
        omega
      · have apart : c ≠ '\'' := by rcases lineBreak with rfl | rfl <;> decide
        rw [readTo_break lineBreak apart] at closed
        cases closed
    · have apart : c ∉ ['\\', '\'', '\n', '\r'] := fun member => special (by grind)
      rw [and_iff_right special, readTo_other apart, units_cons, Option.map_eq_some_iff]
      constructor
      · rintro ⟨⟨more, _⟩, later, same⟩
        obtain ⟨value, rfl⟩ := Prod.mk.inj same
        rw [later, List.append_cancel_left value]
      · intro later
        exact ⟨_, later, rfl⟩

end DesignMarkup.Script
