import DesignMarkup.Proofs.Html.Reference
/-!
Pages as a reader of HTML takes them apart: a machine that is fed one character after the other and
gives tags, characters and the texts of titles. Comments, and elements whose contents are read by
rules of their own, are beyond this machine: it stops there, for good.
-/
namespace DesignMarkup.Html

def isBlank (c : Char) : Bool := c ∈ ['\t', '\n', '\x0c', ' ']

def endsName (c : Char) : Bool := isBlank c || c == '/' || c == '>'

inductive Place where
  | gap
  | name
  | value
  | quoted (mark : Char)
  | unquoted
deriving DecidableEq

namespace Place

def next : Place → Char → Place
  | gap, c => if isBlank c || c == '/' then gap else name
  | name, c => if c = '=' then value else if c = '/' then gap else name
  | value, c => if isBlank c then value else if c = '"' ∨ c = '\'' then quoted c else unquoted
  | quoted mark, c => if c = mark then gap else quoted mark
  | unquoted, c => if isBlank c then gap else unquoted

/-- A tag ends at a `>`, but not in a value between quotes. -/
def endsTag : Place → Char → Bool
  | quoted _, _ => false
  | _, c => c == '>'

end Place

structure Tag where
  isEnd : Bool
  /-- In lower case. -/
  name : String
  inside : List Char
deriving DecidableEq

inductive Token where
  /-- Outside of titles, as it is written. -/
  | char (c : Char)
  | doctype (inside : List Char)
  | tag (tag : Tag)
  | title (text : List Char)
deriving DecidableEq

/-- What the machine is in, with what it has read of it, the last character first. -/
inductive Mode where
  | text
  /-- Behind a `<`. -/
  | opened
  /-- Behind a `</`. -/
  | closing
  /-- Behind a `<!`. -/
  | declared (read : List Char)
  | named (isEnd : Bool) (read : List Char)
  | inside (isEnd : Bool) (name : String) (place : Place) (read : List Char)
  | title (read : List Char)
  | beyond
deriving DecidableEq

def titleEnd : List Char := ['<', '/', 't', 'i', 't', 'l', 'e']

def endsTitle (read : List Char) : Bool :=
  (read.take titleEnd.length).reverse.map Char.toLower == titleEnd

namespace Mode

def behind (tag : Tag) : Mode :=
  if tag.isEnd then text
  else if tag.name = "title" then title []
  else if ["frameset", "iframe", "math", "noembed", "noframes", "noscript", "plaintext", "script",
    "select", "style", "svg", "textarea", "xmp"].contains tag.name then beyond
  else text

def leaveTag (tag : Tag) : Mode × List Token := (behind tag, [.tag tag])

def leaveName (isEnd : Bool) (name : String) (c : Char) : Mode × List Token :=
  if c = '>' then leaveTag ⟨isEnd, name, []⟩ else (inside isEnd name .gap [c], [])

def readText (c : Char) : Mode × List Token := if c = '<' then (opened, []) else (text, [.char c])

def step : Mode → Char → Mode × List Token
  | text, c => readText c
  | opened, c =>
    if c.isAlpha then (named false [c.toLower], [])
    else if c = '/' then (closing, [])
    else if c = '!' then (declared [], [])
    else if c = '?' then (beyond, [])
    else ((readText c).1, .char '<' :: (readText c).2)
  | closing, c => if c.isAlpha then (named true [c.toLower], []) else (beyond, [])
  | declared read, c =>
    if c ≠ '>' then (declared (c :: read), [])
    else if (read.reverse.take 7).map Char.toLower = "doctype".toList then
      (text, [.doctype read.reverse])
    else (beyond, [])
  | named isEnd read, c =>
    if endsName c then leaveName isEnd (String.ofList read.reverse) c
    else (named isEnd (c.toLower :: read), [])
  | inside isEnd name place read, c =>
    if place.endsTag c then leaveTag ⟨isEnd, name, read.reverse⟩
    else (inside isEnd name (place.next c) (c :: read), [])
  | title read, c =>
    if endsName c && endsTitle read then
      let (mode, out) := leaveName true "title" c
      (mode, .title (read.drop titleEnd.length).reverse :: out)
    else (title (c :: read), [])
  | beyond, _ => (beyond, [])

def after (m : Mode) (text : List Char) : Mode := text.foldl (fun m c => (m.step c).1) m

def tokens : Mode → List Char → List Token
  | _, [] => []
  | m, c :: rest => (m.step c).2 ++ tokens (m.step c).1 rest

end Mode

open Mode

theorem after_append (m : Mode) (front rest : List Char) :
    m.after (front ++ rest) = (m.after front).after rest :=
  List.foldl_append

theorem tokens_append (m : Mode) (front rest : List Char) :
    m.tokens (front ++ rest) = m.tokens front ++ (m.after front).tokens rest := by
  induction front generalizing m with
  | nil => rfl
  | cons c front ih =>
    rw [List.cons_append, tokens, tokens, ih, List.append_assoc]
    rfl

def Closes (text : List Char) : Prop :=
  ∃ before mark c rest, text = before ++ mark ++ c :: rest ∧
    mark.map Char.toLower = titleEnd ∧ endsName c = true

theorem not_closes_nil : ¬ Closes [] := by
  rintro ⟨before, mark, c, rest, same, -⟩
  exact List.append_ne_nil_of_right_ne_nil _ (List.cons_ne_nil c rest) same.symm

section titles
variable {text read rest : List Char} {c : Char}

theorem endsTitle_reverse : endsTitle text.reverse = true ↔
    ∃ before mark, text = before ++ mark ∧ mark.map Char.toLower = titleEnd := by
  rw [endsTitle, beq_iff_eq]
  constructor
  · intro ends
    refine ⟨text.take (text.length - titleEnd.length), _, ?_, ends⟩
    rw [List.take_reverse, List.reverse_reverse, List.take_append_drop]
  · rintro ⟨before, mark, rfl, ends⟩
    have length := congrArg List.length ends
    rw [List.length_map] at length
    rw [List.reverse_append, ← length, ← List.length_reverse, List.take_left, List.reverse_reverse,
      ends]

theorem Closes.append (closes : Closes text) (rest : List Char) : Closes (text ++ rest) := by
  obtain ⟨before, mark, c, behind, rfl, ends, name⟩ := closes
  exact ⟨before, mark, c, behind ++ rest, by simp only [List.append_assoc, List.cons_append], ends,
    name⟩

/-- With one more character a text closes the title if it did before, or if the machine takes this
character for the end of a name. -/
theorem closes_concat : Closes (text ++ [c]) ↔
    Closes text ∨ (endsName c && endsTitle text.reverse) = true := by
  rw [Bool.and_eq_true, endsTitle_reverse]
  constructor
  · rintro ⟨before, mark, d, rest, same, ends, name⟩
    rcases List.eq_nil_or_concat rest with rfl | ⟨rest, e, rfl⟩
    · obtain ⟨rfl, last⟩ := List.append_inj' same rfl
      exact .inr ⟨(List.cons.inj last).1 ▸ name, before, mark, rfl, ends⟩
    · rw [List.concat_eq_append, ← List.cons_append, ← List.append_assoc] at same
      exact .inl ⟨before, mark, d, rest, (List.append_inj' same rfl).1, ends, name⟩
  · rintro (closes | ⟨name, before, mark, rfl, ends⟩)
    · exact closes.append [c]
    · exact ⟨before, mark, c, [], rfl, ends, name⟩

theorem step_title_open (apart : ¬ Closes (read.reverse ++ [c])) :
    step (.title read) c = (.title (c :: read), []) := by
  rw [closes_concat, List.reverse_reverse, not_or] at apart
  rw [step, if_neg apart.2]

theorem title_open (apart : ¬ Closes (read.reverse ++ text)) :
    (Mode.title read).after text = .title (text.reverse ++ read) ∧
      (Mode.title read).tokens text = [] := by
  induction text generalizing read with
  | nil => exact ⟨rfl, rfl⟩
  | cons c rest ih =>
    rw [List.append_cons] at apart
    have one := step_title_open fun closes => apart (closes.append rest)
    rw [← List.reverse_cons] at apart
    obtain ⟨after, none⟩ := ih apart
    rw [Mode.after, List.foldl_cons, one, tokens, one, none, List.reverse_cons, List.append_assoc]
    exact ⟨after, rfl⟩

theorem title_closed (apart : ¬ Closes read.reverse) (closes : Closes (read.reverse ++ text)) :
    ∃ shown more, (Mode.title read).tokens text = .title shown :: more ∧
      shown.length < (read.reverse ++ text).length := by
  induction text generalizing read with
  | nil =>
    rw [List.append_nil] at closes
    exact absurd closes apart
  | cons c rest ih =>
    rw [List.append_cons] at closes
    by_cases here : Closes (read.reverse ++ [c])
    · rw [closes_concat, List.reverse_reverse] at here
      refine ⟨(read.drop titleEnd.length).reverse,
        (leaveName true "title" c).2 ++ (leaveName true "title" c).1.tokens rest, ?_, ?_⟩
      · rw [tokens, step, if_pos (here.resolve_left apart)]
        rfl
      · rw [List.length_reverse, List.length_drop, List.length_append, List.length_reverse,
          List.length_cons]
        omega
    · rw [tokens, step_title_open here, List.nil_append]
      rw [← List.reverse_cons] at closes here
      rw [List.append_cons, ← List.reverse_cons]
      exact ih here closes

theorem not_closes_append {word : List Char} (apart : ¬ Closes text)
    (inside : ∀ c ∈ word, endsName c = false) : ¬ Closes (text ++ word) := by
  induction word generalizing text with
  | nil => rwa [List.append_nil]
  | cons c word ih =>
    obtain ⟨here, later⟩ := List.forall_mem_cons.1 inside
    rw [List.append_cons]
    refine ih ?_ later
    rw [closes_concat, here, Bool.false_and]
    exact not_or.2 ⟨apart, Bool.false_ne_true⟩

theorem endsTitle_other (other : c.toLower ≠ 'e') : endsTitle (c :: read) = false := by
  rw [endsTitle, beq_eq_false_iff_ne]
  intro ends
  have last := congrArg List.getLast? ends
  rw [titleEnd, List.length_cons, List.take_succ_cons, List.reverse_cons, List.map_append,
    List.map_singleton, List.getLast?_concat] at last
  exact other (Option.some.inj last)

theorem not_closes_titleEnd (apart : ¬ Closes text) : ¬ Closes (text ++ titleEnd) := by
  have inside : ∀ c ∈ '<' :: ['t', 'i', 't', 'l', 'e'], endsName c = false := by
    simp [endsName, isBlank]
  have other : '<'.toLower ≠ 'e' := by decide
  have opened : ¬ Closes (text ++ ['<']) := not_closes_append apart fun c member =>
    inside c (List.mem_cons.2 (.inl (List.mem_singleton.1 member)))
  have slash : ¬ Closes (text ++ ['<'] ++ ['/']) := by
    rw [closes_concat, List.reverse_append, List.reverse_singleton, List.singleton_append,
      endsTitle_other other, Bool.and_false]
    exact not_or.2 ⟨opened, Bool.false_ne_true⟩
  have split : text ++ titleEnd = text ++ ['<'] ++ ['/'] ++ ['t', 'i', 't', 'l', 'e'] := by
    simp only [titleEnd, List.append_assoc, List.cons_append, List.nil_append]
  rw [split]
  exact not_closes_append slash fun c member => inside c (List.mem_cons_of_mem _ member)

theorem step_title_end (text : List Char) :
    (Mode.title (text ++ titleEnd).reverse).step '>' =
      (.text, [.title text, .tag ⟨true, "title", []⟩]) := by
  have ends : endsTitle (text ++ titleEnd).reverse = true :=
    endsTitle_reverse.2 ⟨text, titleEnd, rfl, rfl⟩
  rw [step, ends, List.reverse_append, List.drop_left' (List.length_reverse ..), List.reverse_reverse]
  rfl

theorem title_written (apart : ¬ Closes text) (rest : List Char) :
    (Mode.title []).tokens (text ++ (titleEnd ++ '>' :: rest)) =
        .title text :: .tag ⟨true, "title", []⟩ :: Mode.text.tokens rest ∧
      (Mode.title []).after (text ++ (titleEnd ++ '>' :: rest)) = Mode.text.after rest := by
  have whole : ¬ Closes (List.reverse [] ++ (text ++ titleEnd)) := not_closes_titleEnd apart
  obtain ⟨after, none⟩ := title_open whole
  rw [List.append_nil] at after
  rw [← List.append_assoc, tokens_append, after_append _ (text ++ titleEnd), after, none, tokens,
    Mode.after, List.foldl_cons, step_title_end]
  exact ⟨rfl, rfl⟩

end titles

def joinBreaks : List Char → List Char
  | [] => []
  | c :: rest =>
    if c ≠ '\r' then c :: joinBreaks rest
    else if rest.head? = some '\n' then joinBreaks rest
    else '\n' :: joinBreaks rest

section breaks
variable {c : Char} {text rest : List Char}

theorem joinBreaks_other (other : c ≠ '\r') : joinBreaks (c :: rest) = c :: joinBreaks rest := by
  rw [joinBreaks, if_pos other]

theorem joinBreaks_free (free : '\r' ∉ text) : joinBreaks text = text := by
  induction text with
  | nil => rfl
  | cons c rest ih =>
    obtain ⟨here, later⟩ := not_or.1 (mt List.mem_cons.2 free)
    rw [joinBreaks_other (Ne.symm here), ih later]

theorem not_mem_joinBreaks (text : List Char) : '\r' ∉ joinBreaks text := by
  induction text with
  | nil => exact List.not_mem_nil
  | cons c rest ih =>
    rw [joinBreaks]
    split
    · rename_i other
      exact mt List.mem_cons.1 (not_or.2 ⟨Ne.symm other, ih⟩)
    · split
      · exact ih
      · exact mt List.mem_cons.1 (not_or.2 ⟨by decide, ih⟩)

theorem joinBreaks_length_le (text : List Char) : (joinBreaks text).length ≤ text.length := by
  induction text with
  | nil => exact Nat.le_refl _
  | cons c rest ih =>
    rw [joinBreaks]
    split
    · exact Nat.succ_le_succ ih
    · split
      · exact Nat.le_succ_of_le ih
      · exact Nat.succ_le_succ ih

/-- Two texts are read apart unless a break of lines may lie between them. -/
theorem joinBreaks_append (apart : '\r' ∉ text ∨ rest.head? ≠ some '\n') :
    joinBreaks (text ++ rest) = joinBreaks text ++ joinBreaks rest := by
  induction text with
  | nil => rfl
  | cons c text ih =>
    have ih := ih (apart.imp_left (mt (List.mem_cons_of_mem c)))
    rw [List.cons_append, joinBreaks, joinBreaks, ih]
    by_cases other : c ≠ '\r'
    · rw [if_pos other, if_pos other, List.cons_append]
    · have next : (text ++ rest).head? = some '\n' ↔ text.head? = some '\n' := by
        cases text with
        | cons d text => rfl
        | nil =>
          have inside : '\r' ∈ [c] := List.mem_singleton.2 (not_not.1 other).symm
          simp only [List.nil_append, List.head?_nil, reduceCtorEq, iff_false]
          exact apart.resolve_left (not_not.2 inside)
      simp only [if_neg other, next]
      split <;> rfl

end breaks

/-- What is read of a page, and where the reading ends. -/
def reading (page : String) : List Token × Mode :=
  (Mode.text.tokens (joinBreaks page.toList), Mode.text.after (joinBreaks page.toList))

def Token.outline : Token → Token
  | .title _ => .title []
  | t => t

/-- All of a page but the texts of its titles. -/
def outline (page : String) : List Token × Mode := ((reading page).1.map Token.outline, (reading page).2)

def Token.title? : Token → Option (List Char)
  | .title shown => some shown
  | _ => none

def withoutNull (c : Char) : Char := if c = '\x00' then replacement else c

theorem withoutNull_eq_iff {c d : Char} (other : d ≠ replacement) :
    withoutNull c = d ↔ c ≠ '\x00' ∧ c = d := by
  unfold withoutNull
  split
  · rename_i null
    exact iff_of_false other.symm fun same => same.1 null
  · rename_i char
    exact (and_iff_right char).symm

theorem map_withoutNull {text : List Char} (noNull : '\x00' ∉ text) :
    text.map withoutNull = text := by
  refine (List.map_congr_left fun c member => if_neg ?_).trans (List.map_id' text)
  rintro rfl
  exact noNull member

section shown
variable (names : String → Option (Char × Option Char))

def shownAs (text : List Char) : List Char := dereference names (text.map withoutNull)

def titleOf? (page : String) : Option (List Char) :=
  ((reading page).1.findSome? Token.title?).map (shownAs names)

structure Plain (text : List Char) : Prop where
  apart : ¬ Closes text
  free : ¬ Refers names text
  noReturn : '\r' ∉ text
  noNull : '\x00' ∉ text

variable {names} {text : List Char}

theorem shownAs_length_le (text : List Char) : (shownAs names text).length ≤ text.length := by
  refine Nat.le_trans (dereference_length_le _) ?_
  rw [List.length_map]

/-- A text that shows itself refers to nothing: a reference would make what is shown shorter, and
nothing makes it longer. -/
theorem shownAs_joinBreaks_eq_iff : shownAs names (joinBreaks text) = text ↔
    ¬ Refers names text ∧ '\r' ∉ text ∧ '\x00' ∉ text := by
  constructor
  · intro same
    have free : ¬ Refers names ((joinBreaks text).map withoutNull) := by
      intro refers
      have shorter := dereference_shorter refers
      rw [← shownAs, same, List.length_map] at shorter
      exact Nat.not_le_of_lt shorter (joinBreaks_length_le text)
    rw [shownAs, dereference_free free] at same
    rw [same] at free
    refine ⟨free, fun inside => ?_, fun inside => ?_⟩
    · obtain ⟨c, member, shown⟩ := List.mem_map.1 (same.symm ▸ inside)
      obtain ⟨-, rfl⟩ := (withoutNull_eq_iff (by decide)).1 shown
      exact not_mem_joinBreaks text member
    · obtain ⟨c, -, shown⟩ := List.mem_map.1 (same.symm ▸ inside)
      obtain ⟨char, null⟩ := (withoutNull_eq_iff (by decide)).1 shown
      exact char null
  · rintro ⟨free, noReturn, noNull⟩
    rw [joinBreaks_free noReturn, shownAs, map_withoutNull noNull, dereference_free free]

theorem Plain.joined (plain : Plain names text) : ¬ Closes (joinBreaks text) := by
  rw [joinBreaks_free plain.noReturn]
  exact plain.apart

theorem Plain.of_unmarked (unmarked : '<' ∉ text ∧ '&' ∉ text)
    (ordinary : '\r' ∉ text ∧ '\x00' ∉ text) : Plain names text where
  apart := by
    rintro ⟨before, mark, c, rest, rfl, ends, -⟩
    have opens : '<' ∈ mark.map Char.toLower := ends ▸ List.mem_cons_self
    obtain ⟨d, member, lower⟩ := List.mem_map.1 opens
    have noLetter : d.isAlpha = false := by
      rw [← Char.isAlpha_toLower_eq_isAlpha, lower]
      rfl
    rw [Char.isAlpha, Bool.or_eq_false_iff] at noLetter
    rw [Char.toLower_eq_of_not_isUpper (Bool.eq_false_iff.1 noLetter.1)] at lower
    exact unmarked.1 (List.mem_append_left _ (List.mem_append_right _ (lower ▸ member)))
  free := by
    rintro ⟨before, rest, rfl, -⟩
    exact unmarked.2 (List.mem_append_right _ List.mem_cons_self)
  noReturn := ordinary.1
  noNull := ordinary.2

end shown

end DesignMarkup.Html
