import DesignMarkup.Proofs.Sandbox.Assembly
import DesignMarkup.Proofs.Text.Replacement
/-!
What becomes of a text when it is pointed at bundled files. Blanks and quotation marks are in no
address, so that the pieces between them are rewritten for themselves. An address that is such a
piece becomes the path of its file: longer addresses are not in it, and none is in the path.
-/
namespace DesignMarkup

/-- An absolute address that is written as it is, also in quotation marks, and holds no blanks. -/
structure PlainAddress (url : String) : Prop where
  absolute : "://".toList <:+: url.toList
  printed : ∀ c ∈ url.toList, 0x20 < c.toNat ∧ c ≠ '"' ∧ c ≠ '\\'

instance (url : String) : Decidable (PlainAddress url) :=
  decidable_of_iff ("://".toList <:+: url.toList ∧
      url.toList.all (fun c => 0x20 < c.toNat ∧ c ≠ '"' ∧ c ≠ '\\') = true)
    ⟨fun h => ⟨h.1, by simpa using h.2⟩, fun h => ⟨h.absolute, by simpa using h.printed⟩⟩

namespace PlainAddress
variable {url : String}

theorem not_escaped {c : Char} (printed : 0x20 < c.toNat ∧ c ≠ '"' ∧ c ≠ '\\') : c ∉ Json.escaped := by
  obtain ⟨low, quote, backslash⟩ := printed
  intro member
  rcases List.mem_append.1 member with mark | control
  · simp [quote, backslash] at mark
  · obtain ⟨n, below, rfl⟩ := List.mem_map.1 control
    rw [List.mem_range] at below
    rw [Char.toNat_ofNat, if_pos (.inl (by omega))] at low
    omega

theorem quoted (plain : PlainAddress url) : (Json.quote url).toList = '"' :: url.toList ++ ['"'] := by
  have verbatim : url.toList.flatMap Json.escapedChar = url.toList :=
    Json.flatMap_escapedChar_plain fun c member => not_escaped (plain.printed c member)
  rw [Json.quote, String.toList_ofList, Json.quoteChars, verbatim]

theorem nonempty (plain : PlainAddress url) : url.toList ≠ [] := by
  intro empty
  have inside := plain.absolute
  rw [empty] at inside
  exact absurd (List.infix_nil.1 inside) (by decide)

theorem absent (plain : PlainAddress url) {text : List Char} (relative : ¬ "://".toList <:+: text) :
    ¬ url.toList <:+: text :=
  fun inside => relative (plain.absolute.trans inside)

theorem scheme (plain : PlainAddress url) (web : Url.isWebAddress url = true) :
    ∃ front rest, url.toList = front ++ ':' :: rest ∧ ∀ c ∈ front, Url.isSchemeChar c = true := by
  unfold Url.isWebAddress at web
  split at web
  · rename_i parsed
    exact Url.parse_scheme parsed fun c member => (plain.printed c member).1
  · cases web

/-- No address begins in a text without a colon that ends in what is not part of a scheme. -/
theorem begins_later (plain : PlainAddress url) (web : Url.isWebAddress url = true) {text : List Char}
    (noColon : ':' ∉ text) {last : Char} (ends : text.getLast? = some last)
    (foreign : Url.isSchemeChar last = false) (rest : List Char) : ¬ url.toList <+: text ++ rest := by
  obtain ⟨front, tail, split, inScheme⟩ := plain.scheme web
  intro starts
  have colon : front ++ [':'] <+: text ++ rest := by
    refine List.IsPrefix.trans ?_ starts
    rw [split]
    exact ⟨tail, by simp⟩
  by_cases short : (front ++ [':']).length ≤ text.length
  · have within := List.prefix_of_prefix_length_le colon (List.prefix_append ..) short
    exact noColon (within.subset (by simp))
  · have within : text <+: front := by
      rw [List.length_append, List.length_singleton] at short
      exact List.prefix_of_prefix_length_le (List.prefix_append text rest)
        ((List.prefix_append front [':']).trans colon) (by omega)
    have kept := inScheme last (within.subset (List.mem_of_getLast? ends))
    rw [foreign] at kept
    exact nomatch kept

end PlainAddress

def StartsBlank (text : List Char) : Prop := ∀ c, text.head? = some c → c.toNat ≤ 0x20

theorem StartsBlank.append {xs ys : List Char} (front : StartsBlank xs) (back : StartsBlank ys) :
    StartsBlank (xs ++ ys) := by
  cases xs with
  | nil => exact back
  | cons x xs => exact front

/-- There is no colon after the last blank or line end of the text, and there is one. -/
def EndsClear (text : List Char) : Prop :=
  ∃ stem mark token, text = stem ++ mark :: token ∧ mark.toNat ≤ 0x20 ∧ ':' ∉ token

theorem EndsClear.append_left {text : List Char} (clear : EndsClear text) (front : List Char) :
    EndsClear (front ++ text) := by
  obtain ⟨stem, mark, token, rfl, blank, noColon⟩ := clear
  exact ⟨front ++ stem, mark, token, (List.append_assoc ..).symm, blank, noColon⟩

theorem eq_of_infix {s t : String} (inside : s.toList <:+: t.toList)
    (long : t.utf8ByteSize ≤ s.utf8ByteSize) : s = t := by
  obtain ⟨front, back, split⟩ := inside
  have whole : t = String.ofList front ++ s ++ String.ofList back := by
    rw [← String.toList_inj]
    simp [split]
  have sizes := congrArg String.utf8ByteSize whole
  rw [String.utf8ByteSize_append, String.utf8ByteSize_append] at sizes
  have noFront : String.ofList front = "" := String.utf8ByteSize_eq_zero_iff.1 (by omega)
  have noBack : String.ofList back = "" := String.utf8ByteSize_eq_zero_iff.1 (by omega)
  simp [whole, noFront, noBack]

namespace BundledAsset
open Url (SegmentText)

theorem NamedFor.served {a : BundledAsset} {e : Element} (named : a.NamedFor e) :
    ∃ name, SegmentText name.toList ∧ a.path = "public/assets/" ++ name ∧
      a.servedPath = "/assets/" ++ name := by
  obtain ⟨extension, n, found, path⟩ := named.name
  refine ⟨fileName (stemOf e) extension n, ?_, ?_, ?_⟩
  · exact fileName_segmentText (stemOf_isStem e) (extensionOf?_chars found).2 n
  · rw [path, candidate_eq]
  · have below : "public/assets/".toList = "public".toList ++ "/assets/".toList := rfl
    rw [servedPath, path, candidate_eq, Text.startsWith, Text.dropChars, String.toList_append, below,
      List.append_assoc, if_pos (List.isPrefixOf_iff_prefix.2 (List.prefix_append ..)),
      ← String.length_toList, List.drop_left, ← String.toList_inj]
    simp

theorem served_relative {name : String} (segment : SegmentText name.toList) :
    ¬ "://".toList <:+: ("/assets/" ++ name).toList := by
  have noSlash : '/' ∉ name.toList := fun member => absurd (segment _ member).1 (by decide)
  have last : "://".toList.getLast? = some '/' := rfl
  rw [String.toList_append, List.infix_append_iff_ne_nil]
  rintro (inFolder | inName | ⟨front, back, _, some, split, _, isFront⟩)
  · exact absurd inFolder (by decide)
  · exact noSlash (inName.subset (by decide))
  · rw [split, List.getLast?_append_of_ne_nil _ some] at last
    exact noSlash (isFront.subset (List.mem_of_getLast? last))

def rewrite (assets : List BundledAsset) (text : List Char) : List Char :=
  assets.foldl (fun text a => Text.replaceFrom a.url.toList a.servedPath.toList 0 text) text

structure Rewritable (assets : List BundledAsset) : Prop where
  plain : ∀ a ∈ assets, PlainAddress a.url
  web : ∀ a ∈ assets, Url.isWebAddress a.url = true
  relative : ∀ a ∈ assets, ¬ "://".toList <:+: a.servedPath.toList
  distinct : (assets.map (·.url)).Nodup
  longestFirst : assets.Pairwise fun a b => b.url.utf8ByteSize ≤ a.url.utf8ByteSize

theorem Rewritable.tail {a : BundledAsset} {rest : List BundledAsset} (h : Rewritable (a :: rest)) :
    Rewritable rest where
  plain := (List.forall_mem_cons.1 h.plain).2
  web := (List.forall_mem_cons.1 h.web).2
  relative := (List.forall_mem_cons.1 h.relative).2
  distinct := (List.nodup_cons.1 h.distinct).2
  longestFirst := (List.pairwise_cons.1 h.longestFirst).2

theorem Rewritable.plain_head {a : BundledAsset} {rest : List BundledAsset}
    (h : Rewritable (a :: rest)) : PlainAddress a.url := h.plain a List.mem_cons_self

section
variable {assets : List BundledAsset} (h : Rewritable assets)
include h

theorem rewrite_mark {mark : Char} (parts : mark.toNat ≤ 0x20 ∨ mark = '"') (xs ys : List Char) :
    rewrite assets (xs ++ mark :: ys) = rewrite assets xs ++ mark :: rewrite assets ys := by
  induction assets generalizing xs ys with
  | nil => rfl
  | cons a rest ih =>
    have absent : mark ∉ a.url.toList := by
      intro member
      obtain ⟨high, quote, _⟩ := h.plain_head.printed mark member
      rcases parts with low | same
      · omega
      · exact quote same
    simp only [rewrite, List.foldl_cons] at ih ⊢
    rw [Text.replaceFrom_mark absent h.plain_head.nonempty xs ys 0 (Nat.zero_le _)]
    exact ih h.tail ..

theorem rewrite_nil : rewrite assets [] = [] := by
  induction assets with
  | nil => rfl
  | cons a rest ih => exact ih h.tail

theorem rewrite_relative {text : List Char} (relative : ¬ "://".toList <:+: text) :
    rewrite assets text = text := by
  induction assets with
  | nil => rfl
  | cons a rest ih =>
    simp only [rewrite, List.foldl_cons] at ih ⊢
    rw [Text.replaceFrom_absent (h.plain_head.absent relative)]
    exact ih h.tail

theorem rewrite_lead {lead : List Char} (noColon : ':' ∉ lead) {last : Char}
    (ends : lead.getLast? = some last) (foreign : Url.isSchemeChar last = false) (rest : List Char) :
    rewrite assets (lead ++ rest) = lead ++ rewrite assets rest := by
  induction assets generalizing rest with
  | nil => rfl
  | cons a others ih =>
    have apart : ∀ text, text ≠ [] → text <:+ lead → ¬ a.url.toList <+: text ++ rest := by
      intro text nonempty back
      have lastOf : text.getLast? = some last := by
        obtain ⟨front, rfl⟩ := back
        rwa [List.getLast?_append_of_ne_nil _ nonempty] at ends
      exact h.plain_head.begins_later (h.web a List.mem_cons_self)
        (fun member => noColon (back.subset member)) lastOf foreign rest
    simp only [rewrite, List.foldl_cons] at ih ⊢
    rw [Text.replaceFrom_lead rest apart]
    exact ih h.tail _

/-- An address becomes its own path and no other one. -/
theorem rewrite_own {a : BundledAsset} (member : a ∈ assets) :
    rewrite assets a.url.toList = a.servedPath.toList := by
  induction assets with
  | nil => exact nomatch member
  | cons b rest ih =>
    simp only [rewrite, List.foldl_cons] at ih ⊢
    rcases List.mem_cons.1 member with rfl | below
    · rw [Text.replaceFrom_self h.plain_head.nonempty]
      exact rewrite_relative h.tail (h.relative a List.mem_cons_self)
    · have absent : ¬ b.url.toList <:+: a.url.toList := by
        intro inside
        have longer := (List.pairwise_cons.1 h.longestFirst).1 a below
        have same : b.url = a.url := eq_of_infix inside longer
        exact (List.nodup_cons.1 h.distinct).1 (List.mem_map.2 ⟨a, below, same.symm⟩)
      rw [Text.replaceFrom_absent absent]
      exact ih h.tail below

theorem rewrite_append {ys : List Char} (blank : StartsBlank ys) (xs : List Char) :
    rewrite assets (xs ++ ys) = rewrite assets xs ++ rewrite assets ys := by
  cases ys with
  | nil => rw [List.append_nil, rewrite_nil h, List.append_nil]
  | cons c ys =>
    have parts : c.toNat ≤ 0x20 ∨ c = '"' := .inl (blank c rfl)
    have alone := rewrite_mark h parts [] ys
    rw [List.nil_append, rewrite_nil h, List.nil_append] at alone
    rw [rewrite_mark h parts, alone]

theorem rewrite_tag {front : List Char} (clear : EndsClear front) (text : List Char) :
    rewrite assets (front ++ '<' :: text) = rewrite assets front ++ '<' :: rewrite assets text := by
  obtain ⟨stem, mark, token, rfl, blank, noColon⟩ := clear
  have relative : ¬ "://".toList <:+: token := fun inside => noColon (inside.subset (by decide))
  have opened : ':' ∉ token ++ ['<'] := by simp [noColon]
  have lead := rewrite_lead h opened List.getLast?_concat (by decide) text
  rw [List.append_assoc, List.cons_append, rewrite_mark h (.inl blank), rewrite_mark h (.inl blank),
    rewrite_relative h relative]
  simp only [List.append_assoc, List.cons_append, List.nil_append] at lead ⊢
  rw [lead]

end

end BundledAsset

section
variable (tree : Element)

def replacements : List BundledAsset :=
  (remoteAssets tree).mergeSort fun a b => b.url.utf8ByteSize ≤ a.url.utf8ByteSize

theorem mem_replacements {a : BundledAsset} : a ∈ replacements tree ↔ a ∈ remoteAssets tree :=
  List.mem_mergeSort

theorem pointAtBundled_toList (source : String) :
    (pointAtBundled source (remoteAssets tree)).toList =
      BundledAsset.rewrite (replacements tree) source.toList := by
  have nonempty : ∀ a ∈ replacements tree, a.url.toList ≠ [] := by
    intro a member empty
    obtain ⟨_, _, named⟩ := (remoteAssets_bundled tree).named a ((mem_replacements tree).1 member)
    have web := named.web
    rw [String.toList_eq_nil_iff.1 empty] at web
    exact absurd web (by decide)
  rw [pointAtBundled, ← replacements]
  generalize replacements tree = assets at nonempty ⊢
  induction assets generalizing source with
  | nil => rfl
  | cons a rest ih =>
    obtain ⟨here, later⟩ := List.forall_mem_cons.1 nonempty
    rw [List.foldl_cons, ih _ later, Text.replaceAll_toList here]
    rfl

theorem replacements_rewritable (plain : ∀ a ∈ remoteAssets tree, PlainAddress a.url) :
    BundledAsset.Rewritable (replacements tree) where
  plain a member := plain a ((mem_replacements tree).1 member)
  web a member := by
    obtain ⟨_, _, named⟩ := (remoteAssets_bundled tree).named a ((mem_replacements tree).1 member)
    exact named.web
  relative a member := by
    obtain ⟨_, _, named⟩ := (remoteAssets_bundled tree).named a ((mem_replacements tree).1 member)
    obtain ⟨name, segment, _, served⟩ := named.served
    rw [served]
    exact BundledAsset.served_relative segment
  distinct := by
    have perm := (List.mergeSort_perm (remoteAssets tree) fun a b =>
      b.url.utf8ByteSize ≤ a.url.utf8ByteSize).map (·.url)
    rw [replacements, perm.nodup_iff, (remoteAssets_bundled tree).urls, webAddresses]
    exact eraseDups_nodup _
  longestFirst := by
    have sorted : (replacements tree).Pairwise fun a b =>
        decide (b.url.utf8ByteSize ≤ a.url.utf8ByteSize) = true := by
      refine List.pairwise_mergeSort (fun a b c => ?_) (fun a b => ?_) (remoteAssets tree)
      · simp only [decide_eq_true_eq]
        omega
      · simp only [Bool.or_eq_true, decide_eq_true_eq]
        omega
    exact sorted.imp of_decide_eq_true

end

end DesignMarkup
