import DesignMarkup.Proofs.Sandbox.Reference
/-!
The spelling of an address in the attribute that shows it. In braces it is written with escapes, and an
address with escapes is looked for in vain unless all of them are at its end, where every backslash is
two. An accepted address begins with a blank or with the letter of its scheme, and neither is written
for anything else; so where it is found in its attribute, there its value begins.
-/
namespace DesignMarkup
open Markup

namespace Url

/-- What an address of the web begins with: something that is passed over, or its scheme. -/
def beginsAddress (c : Char) : Bool := c.toNat ≤ 0x20 || c.toLower == 'h'

theorem not_mem_of_begins {c : Char} (begins : beginsAddress c = true) {text : List Char}
    (clear : text.all (fun c => !beginsAddress c) = true) : c ∉ text := by
  intro inside
  have none := List.all_eq_true.1 clear c inside
  rw [begins] at none
  exact nomatch none

theorem cleaned_cons {c : Char} (high : 0x20 < c.toNat) (s : List Char) :
    ∃ rest, cleaned (c :: s) = c :: rest := by
  have stays : ¬ decide (c.toNat ≤ 0x20) = true := by simpa using high
  have front : (c :: s).dropWhile (fun c => decide (c.toNat ≤ 0x20)) = c :: s :=
    List.dropWhile_cons_of_neg stays
  obtain ⟨rest, back⟩ : ∃ rest,
      ((c :: s).reverse.dropWhile fun c => decide (c.toNat ≤ 0x20)).reverse = c :: rest := by
    rw [List.reverse_cons, List.dropWhile_append]
    split
    · have alone : [c].dropWhile (fun c => decide (c.toNat ≤ 0x20)) = [c] :=
        List.dropWhile_cons_of_neg stays
      rw [alone]
      exact ⟨[], rfl⟩
    · rw [List.reverse_append]
      exact ⟨_, rfl⟩
  have kept : (c != '\t' && c != '\n' && c != '\r') = true := by
    simp only [Bool.and_eq_true, bne_iff_ne]
    refine ⟨⟨?_, ?_⟩, ?_⟩ <;> rintro rfl <;> exact absurd high (by decide)
  simp only [cleaned]
  rw [front, back, List.filter_cons, if_pos kept]
  exact ⟨_, rfl⟩

theorem cutScheme_begins {c : Char} {s rest : List Char} {scheme : String}
    (cut : cutScheme (c :: s) = some (scheme, rest)) : scheme.toList.head? = some c.toLower := by
  obtain ⟨front, split, _, rfl, nonempty⟩ := cutScheme_eq_some cut
  obtain ⟨d, front, rfl⟩ := List.exists_cons_of_ne_nil nonempty
  rw [List.cons_append] at split
  obtain ⟨rfl, _⟩ := List.cons.inj split
  rw [String.toList_ofList, List.map_cons, List.head?_cons]

theorem isWebAddress_begins {text : String} (web : isWebAddress text = true) :
    ∃ c rest, text.toList = c :: rest ∧ beginsAddress c = true := by
  unfold isWebAddress at web
  split at web
  · rename_i u parsed
    obtain ⟨behind, cut, _⟩ := parse_web parsed web
    cases chars : text.toList with
    | nil =>
      rw [chars] at cut
      exact nomatch cut
    | cons c rest =>
      refine ⟨c, rest, rfl, ?_⟩
      rw [beginsAddress, Bool.or_eq_true, decide_eq_true_iff, beq_iff_eq]
      by_cases low : c.toNat ≤ 0x20
      · exact .inl low
      · obtain ⟨others, clean⟩ := cleaned_cons (Nat.lt_of_not_le low) rest
        rw [chars, clean] at cut
        have letter : u.scheme.toList.head? = some 'h' := by
          rcases (isWeb_iff u).1 web with scheme | scheme
          · rw [scheme]
            rfl
          · rw [scheme]
            rfl
        exact .inr (Option.some.inj ((cutScheme_begins cut).symm.trans letter))
  · exact nomatch web

end Url

namespace Json

/-- Nothing has an escape but backslashes at the end. -/
def EscapedAtEnd (s : List Char) (n : Nat) : Prop :=
  ∃ front, s = front ++ List.replicate n '\\' ∧ ∀ c ∈ front, c ∉ escaped

theorem escapedChar_backslash : escapedChar '\\' = List.replicate 2 '\\' := rfl

theorem EscapedAtEnd.flatMap_escapedChar {s : List Char} {n : Nat} (atEnd : EscapedAtEnd s n) :
    s.flatMap escapedChar = s ++ List.replicate n '\\' := by
  obtain ⟨front, rfl, plain⟩ := atEnd
  rw [List.flatMap_append, flatMap_escapedChar_plain plain, List.flatMap_replicate,
    escapedChar_backslash, List.flatten_replicate_replicate, List.append_assoc,
    List.replicate_append_replicate, Nat.mul_two]

/-- Where a text has come behind its escapes by a backslash, only backslashes can follow. -/
theorem backslashes_of_prefix {s : List Char} {n : Nat}
    (front : s <+: List.replicate (n + 1) '\\' ++ s.flatMap escapedChar) : ∀ c ∈ s, c = '\\' := by
  induction s generalizing n with
  | nil =>
    intro c member
    exact nomatch member
  | cons c s ih =>
    rw [List.replicate_succ, List.cons_append, List.cons_prefix_cons] at front
    obtain ⟨rfl, front⟩ := front
    rw [List.flatMap_cons, escapedChar_backslash, ← List.append_assoc,
      List.replicate_append_replicate] at front
    exact List.forall_mem_cons.2 ⟨rfl, ih front⟩

theorem prefix_escaped_iff {s : List Char} :
    s <+: s.flatMap escapedChar ↔ ∃ n, EscapedAtEnd s n := by
  constructor
  · intro front
    induction s with
    | nil => exact ⟨0, [], rfl, nofun⟩
    | cons c s ih =>
      by_cases member : c ∈ escaped
      · obtain ⟨d, rest, text⟩ := escapedChar_escaped member
        have first := front
        rw [List.flatMap_cons, text, List.cons_append, List.cons_prefix_cons] at first
        obtain ⟨rfl, _⟩ := first
        have all : ∀ c ∈ '\\' :: s, c = '\\' := by
          rw [List.flatMap_cons, escapedChar_backslash, List.replicate_succ, List.cons_append,
            List.cons_prefix_cons] at front
          exact List.forall_mem_cons.2 ⟨rfl, backslashes_of_prefix front.2⟩
        exact ⟨_, [], (List.eq_replicate_of_mem all).trans (List.nil_append _).symm, nofun⟩
      · rw [List.flatMap_cons, escapedChar_plain member, List.singleton_append,
          List.cons_prefix_cons] at front
        obtain ⟨n, stem, rfl, plain⟩ := ih front.2
        exact ⟨n, c :: stem, rfl, List.forall_mem_cons.2 ⟨member, plain⟩⟩
  · rintro ⟨n, atEnd⟩
    rw [atEnd.flatMap_escapedChar]
    exact List.prefix_append ..

theorem length_le_escaped (s : List Char) : s.length ≤ (s.flatMap escapedChar).length := by
  induction s with
  | nil => exact Nat.le_refl _
  | cons c s ih =>
    obtain ⟨d, rest, text, _⟩ := escapedChar_begins c
    rw [List.flatMap_cons, text, List.length_append, List.length_cons, List.length_cons]
    omega

section
variable {c : Char} (begins : Url.beginsAddress c = true)
include begins

theorem not_mem_escapedChar {d : Char} (member : d ∈ escaped) : c ∉ escapedChar d := by
  have clear : escaped.all (fun d => (escapedChar d).all fun c => !Url.beginsAddress c) = true := by
    decide +kernel
  exact Url.not_mem_of_begins begins (List.all_eq_true.1 clear d member)

theorem count_escaped_le (s : List Char) : (s.flatMap escapedChar).count c ≤ s.count c := by
  induction s with
  | nil => exact Nat.le_refl _
  | cons d s ih =>
    rw [List.flatMap_cons, List.count_append, List.count_cons]
    by_cases member : d ∈ escaped
    · rw [List.count_eq_zero.2 (not_mem_escapedChar begins member)]
      omega
    · rw [escapedChar_plain member, List.count_singleton]
      omega

theorem infix_escaped_iff {rest lead tail : List Char} (notBefore : c ∉ lead) (notAfter : c ∉ tail) :
    c :: rest <:+: lead ++ (c :: rest).flatMap escapedChar ++ tail ↔
      c :: rest <+: (c :: rest).flatMap escapedChar := by
  constructor
  · rintro ⟨front, back, split⟩
    have counts := congrArg (List.count c) split
    rw [List.count_append, List.count_append, List.count_append, List.count_append,
      List.count_eq_zero.2 notBefore, List.count_eq_zero.2 notAfter] at counts
    -- Escapes add no further one of its first character, so there is none before it.
    have noFront : c ∉ front := by
      have fewer := count_escaped_le begins (c :: rest)
      exact List.count_eq_zero.1 (by omega)
    have plain : c ∉ escaped := by
      intro member
      have fewer := count_escaped_le begins rest
      rw [List.flatMap_cons, List.count_append, List.count_eq_zero.2 (not_mem_escapedChar begins member),
        List.count_cons_self] at counts
      omega
    rw [List.flatMap_cons, escapedChar_plain plain, List.singleton_append] at split ⊢
    rw [List.append_assoc, List.append_assoc, List.cons_append, List.cons_append] at split
    have other {text : List Char} (apart : c ∉ text) : ∀ d ∈ text, (d != c) = true := by
      intro d member
      rw [bne_iff_ne]
      rintro rfl
      exact apart member
    have stop : (c != c) = false := bne_self_eq_false c
    obtain ⟨_, same⟩ := Text.token_split (other noFront) (other notBefore) (Text.stops_cons stop)
      (Text.stops_cons stop) split
    have first : rest <+: rest.flatMap escapedChar ++ tail := ⟨back, (List.cons.inj same).2⟩
    have short := length_le_escaped rest
    exact List.cons_prefix_cons.2
      ⟨rfl, List.prefix_of_prefix_length_le first (List.prefix_append ..) short⟩
  · rintro ⟨more, same⟩
    refine ⟨lead, more ++ tail, ?_⟩
    rw [← same]
    simp only [List.append_assoc]

end
end Json

section
variable {url : String}

theorem source_quoted (bare : needsBraces stringMarks url = false) :
    (stringAttribute "src" url).toList = "src=\"".toList ++ url.toList ++ ['"'] := by
  rw [stringAttribute_toList, stringChars, bare]
  rfl

theorem source_braced (braced : needsBraces stringMarks url = true) :
    (stringAttribute "src" url).toList =
      "src=\x7b\"".toList ++ url.toList.flatMap Json.escapedChar ++ ['"', '\x7d'] := by
  rw [stringAttribute_toList, stringChars, braced, if_pos rfl, bracedChars, Json.quoteChars]
  simp

theorem source_contains_iff (web : Url.isWebAddress url = true) :
    url.toList <:+: (stringAttribute "src" url).toList ↔
      needsBraces stringMarks url = false ∨ ∃ n, Json.EscapedAtEnd url.toList n := by
  obtain ⟨c, rest, chars, begins⟩ := Url.isWebAddress_begins web
  cases form : needsBraces stringMarks url with
  | false =>
    rw [source_quoted form]
    simp only [true_or, iff_true]
    exact ⟨_, _, rfl⟩
  | true =>
    have notBefore : c ∉ "src=\x7b\"".toList := Url.not_mem_of_begins begins rfl
    have notAfter : c ∉ ['"', '\x7d'] := Url.not_mem_of_begins begins rfl
    rw [source_braced form, chars, Json.infix_escaped_iff begins notBefore notAfter,
      Json.prefix_escaped_iff]
    simp

theorem replace_source (web : Url.isWebAddress url = true) (path : String) :
    (needsBraces stringMarks url = false →
      (Text.replaceAll (stringAttribute "src" url) url path).toList =
        "src=\"".toList ++ path.toList ++ ['"']) ∧
    (∀ n, needsBraces stringMarks url = true → Json.EscapedAtEnd url.toList n →
      (Text.replaceAll (stringAttribute "src" url) url path).toList =
        "src=\x7b\"".toList ++ path.toList ++ (List.replicate n '\\' ++ ['"', '\x7d'])) ∧
    (¬ url.toList <:+: (stringAttribute "src" url).toList →
      Text.replaceAll (stringAttribute "src" url) url path = stringAttribute "src" url) := by
  obtain ⟨c, rest, chars, begins⟩ := Url.isWebAddress_begins web
  have nonempty : url.toList ≠ [] := by
    rw [chars]
    exact List.cons_ne_nil c rest
  rw [← String.toList_inj, Text.replaceAll_toList nonempty]
  refine ⟨?_, ?_, Text.replaceFrom_absent⟩
  · intro bare
    rw [source_quoted bare, chars]
    exact Text.replaceFrom_between (Url.not_mem_of_begins begins rfl) (Url.not_mem_of_begins begins rfl)
  · intro n braced atEnd
    have notAfter : c ∉ List.replicate n '\\' ++ ['"', '\x7d'] := by
      rw [List.mem_append, not_or]
      constructor
      · intro inside
        rw [List.eq_of_mem_replicate inside] at begins
        exact absurd begins (by decide)
      · exact Url.not_mem_of_begins begins rfl
    rw [source_braced braced, atEnd.flatMap_escapedChar, chars, ← List.append_assoc, List.append_assoc _ _ ['"', '\x7d']]
    exact Text.replaceFrom_between (Url.not_mem_of_begins begins rfl) notAfter

theorem source_printed {d : Element} (shown : d.attributes.src.or d.asset? = some url) (k : Nat) :
    attributeChars (stringAttribute "src" url) <:+: d.outline.print k := by
  have member : ("src", .string url) ∈ d.outline.attributes := by
    rw [Element.outline_eq, commonShown, shown]
    simp
  obtain ⟨first, others, split⟩ := List.append_of_mem member
  rw [outline_print, split, printAttributes_append, stringAttribute_print k]
  refine ⟨'<' :: d.tag.toList ++ printAttributes k first,
    printAttributes k others ++ (Element.outlineContent d.content).print k d.tag, ?_⟩
  simp only [printAttributes_eq, List.flatMap_cons, List.append_assoc, List.cons_append]

end

theorem pointAtBundled_singleton (source : String) (a : BundledAsset) :
    pointAtBundled source [a] = Text.replaceAll source a.url a.servedPath := by
  rw [pointAtBundled, List.mergeSort_singleton]
  rfl

/-- The attribute that is printed for a bundled address has the address in it exactly if it is printed
without braces, or with no escapes but those of backslashes at its end. Pointing the attribute at the
file replaces the address where it stands, and a backslash is left of each pair at its end; an
attribute without the address stays at the remote one. -/
theorem asset_spelled_alike_iff {tree : Frozen}
    (hookless : ∀ d ∈ tree.element.visit, d.template = none) {a : BundledAsset}
    (bundled : a ∈ remoteAssets tree.element) (depth : Nat) :
    let source := stringAttribute "src" a.url
    (∀ d, tree.element.Shows d → d.attributes.src.or d.asset? = some a.url →
      attributeChars source <:+: (renderPlain depth tree).markup.toList) ∧
    (a.url.toList <:+: source.toList ↔
      needsBraces stringMarks a.url = false ∨ ∃ n, Json.EscapedAtEnd a.url.toList n) ∧
    (needsBraces stringMarks a.url = false →
      (pointAtBundled source [a]).toList = "src=\"".toList ++ a.servedPath.toList ++ ['"']) ∧
    (∀ n, needsBraces stringMarks a.url = true → Json.EscapedAtEnd a.url.toList n →
      (pointAtBundled source [a]).toList =
        "src=\x7b\"".toList ++ a.servedPath.toList ++ (List.replicate n '\\' ++ ['"', '\x7d'])) ∧
    (¬ a.url.toList <:+: source.toList → pointAtBundled source [a] = source) := by
  intro source
  obtain ⟨_, _, named⟩ := (remoteAssets_bundled tree.element).named a bundled
  rw [pointAtBundled_singleton]
  refine ⟨?_, source_contains_iff named.web, replace_source named.web a.servedPath⟩
  intro d shows shown
  obtain ⟨k, before, after, written⟩ := written_of_shows shows depth
  rw [renderPlain_prints depth hookless, written.print]
  obtain ⟨front, back, split⟩ := source_printed shown k
  refine ⟨before ++ front, back ++ after, ?_⟩
  rw [← split]
  simp only [List.append_assoc, source]

/-- A picture whose address is printed in braces and has no escapes. -/
def bracedLogo : Frozen where
  element := image "Logo" "u" "http://[::1]/\x7ba\x7d.png"
  sound := by decide

theorem braced_logo_found :
    (∀ d ∈ bracedLogo.element.visit, d.template = none) ∧
    ∃ a ∈ remoteAssets bracedLogo.element, needsBraces stringMarks a.url = true ∧
      attributeChars (stringAttribute "src" a.url) <:+: (renderPlain 0 bracedLogo).markup.toList ∧
      a.url.toList <:+: (stringAttribute "src" a.url).toList ∧
      (pointAtBundled (stringAttribute "src" a.url) [a]).toList =
        "src=\x7b\"/assets/u.png\"\x7d".toList := by
  have hookless : ∀ d ∈ bracedLogo.element.visit, d.template = none := by decide
  have bundled : ⟨"http://[::1]/\x7ba\x7d.png", "public/assets/u.png"⟩ ∈
      remoteAssets bracedLogo.element := by decide +kernel
  have braced : needsBraces stringMarks "http://[::1]/\x7ba\x7d.png" = true := by decide
  have atEnd : Json.EscapedAtEnd "http://[::1]/\x7ba\x7d.png".toList 0 := by
    refine ⟨_, (List.append_nil _).symm, ?_⟩
    have plain : "http://[::1]/\x7ba\x7d.png".toList.all (fun c => !Json.escaped.contains c) = true := by
      decide +kernel
    simpa using plain
  obtain ⟨printed, found, _, pointed, _⟩ := asset_spelled_alike_iff hookless bundled 0
  refine ⟨hookless, _, bundled, braced, ?_, found.2 (.inr ⟨0, atEnd⟩), ?_⟩
  · exact printed _ (.self _) rfl
  · rw [pointed 0 braced atEnd]
    decide +kernel

def quotedLogo : Frozen where
  element := image "Logo" "u" "http://[::1]/a\"b.png"
  sound := by decide

theorem quoted_logo_missed :
    let source := stringAttribute "src" "http://[::1]/a\"b.png"
    remoteAssets quotedLogo.element = [⟨"http://[::1]/a\"b.png", "public/assets/u.png"⟩] ∧
    Text.mentions source "http://[::1]/a\"b.png" = false ∧
    ∃ app, (previewFiles quotedLogo).get? "src/App.jsx" = some (.text app) ∧
      Text.mentions app source = true ∧ Text.mentions app "/assets/u.png" = false := by
  have hookless : ∀ d ∈ quotedLogo.element.visit, d.template = none := by decide
  obtain ⟨app, file, chars⟩ := previewFiles_app hookless (by decide +kernel)
  refine ⟨by decide +kernel, by decide +kernel, app, file, ?_⟩
  rw [Text.mentions, Text.mentions, chars]
  decide +kernel

end DesignMarkup
