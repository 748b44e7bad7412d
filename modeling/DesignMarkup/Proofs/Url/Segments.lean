import DesignMarkup.Proofs.Json.Record
import DesignMarkup.Proofs.Text.Pieces
import DesignMarkup.Url.Basic
import Mathlib.Data.List.Basic
import Mathlib.Data.List.TakeWhile
/-!
The segments of a web address hold neither a slash nor a backslash, as both end a segment, and
nothing that is percent-encoded in a path. Percent-encoding itself writes none of these.
-/
namespace DesignMarkup.Url
open Json (bind_eq_ok)

def SlashFree (s : List Char) : Prop := ∀ c ∈ s, isSlash .special c = false

def SegmentText (s : List Char) : Prop := ∀ c ∈ s, isSlash .special c = false ∧ inPath c = false

theorem digit_of_mem_toDigits {n : Nat} {c : Char} (member : c ∈ Nat.toDigits 16 n) :
    ∃ d < 16, c = Nat.digitChar d := by
  induction n using Nat.strongRecOn with
  | ind n ih =>
    rw [Nat.toDigits_eq_if (by omega)] at member
    split at member
    · exact ⟨n, by omega, List.mem_singleton.1 member⟩
    · rcases List.mem_append.1 member with front | last
      · exact ih (n / 16) (by omega) front
      · exact ⟨n % 16, by omega, List.mem_singleton.1 last⟩

theorem upperHexByte_segmentText (n : Nat) : SegmentText (upperHexByte n) := by
  have digits : SegmentText ((Nat.toDigits 16 n).map Char.toUpper) := by
    intro c member
    obtain ⟨lower, digit, rfl⟩ := List.mem_map.1 member
    obtain ⟨d, bound, rfl⟩ := digit_of_mem_toDigits digit
    have all : ∀ d : Fin 16, isSlash .special (Nat.digitChar d).toUpper = false ∧
        inPath (Nat.digitChar d).toUpper = false := by decide
    exact all ⟨d, bound⟩
  unfold upperHexByte
  split
  · exact List.forall_mem_cons.2 ⟨by decide, digits⟩
  · exact digits

theorem encodeWhere_segmentText {s : List Char} (free : SlashFree s) :
    SegmentText (encodeWhere inPath s) := by
  intro c member
  obtain ⟨d, among, written⟩ := List.mem_flatMap.1 member
  split at written
  · obtain ⟨b, _, byte⟩ := List.mem_flatMap.1 written
    rcases List.mem_cons.1 byte with rfl | digit
    · decide
    · exact upperHexByte_segmentText b c digit
  · rename_i kept
    rw [List.mem_singleton.1 written]
    exact ⟨free d among, by simpa using kept⟩

def Segmented (segments : List String) : Prop := ∀ s ∈ segments, SegmentText s.toList

theorem Segmented.append {xs ys : List String} (left : Segmented xs) (right : Segmented ys) :
    Segmented (xs ++ ys) := List.forall_mem_append.2 ⟨left, right⟩

theorem goUp_segmented {segments : List String} (h : Segmented segments) :
    Segmented (goUp segments) := by
  unfold goUp
  split
  · exact h
  · exact fun s member => h s ((List.dropLast_sublist _).subset member)

theorem walk_segmented {segments : List String} {piece : List Char} (h : Segmented segments)
    (free : SlashFree piece) (last : Bool) : Segmented (walk segments piece last) := by
  have ending : Segmented (if last then [""] else []) := by
    cases last
    · exact List.forall_mem_nil _
    · exact List.forall_mem_singleton.2 (List.forall_mem_nil _)
  have text : SegmentText (String.ofList (encodeWhere inPath piece)).toList := by
    rw [String.toList_ofList]
    exact encodeWhere_segmentText free
  simp only [walk]
  generalize (if last then [""] else []) = ending' at ending ⊢
  split
  · exact (goUp_segmented h).append ending
  · split
    · exact h.append ending
    · exact h.append (List.forall_mem_singleton.2 text)

theorem walkAll_segmented {segments : List String} {pieces : List (List Char)}
    (h : Segmented segments) (free : ∀ piece ∈ pieces, SlashFree piece) :
    Segmented (walkAll segments pieces) := by
  induction segments, pieces using walkAll.induct with
  | case1 segments => exact h
  | case2 segments piece => exact walk_segmented h (free piece List.mem_cons_self) true
  | case3 segments piece rest more ih =>
    rw [walkAll.eq_3 _ _ _ more]
    apply ih
    · exact walk_segmented h (free piece List.mem_cons_self) false
    · exact fun next later => free next (List.mem_cons_of_mem _ later)

theorem pathOf_segmented (s : List Char) :
    ∃ items, pathOf .special s = .segments items ∧ Segmented items :=
  ⟨_, rfl, walkAll_segmented (List.forall_mem_nil _) fun _ piece => Text.mem_splitBy piece⟩

theorem pathAfterHost_segmented (s : List Char) :
    ∃ items, pathAfterHost .special s = .segments items ∧ Segmented items := by
  cases s with
  | nil => exact ⟨[""], rfl, List.forall_mem_singleton.2 (List.forall_mem_nil _)⟩
  | cons c rest => exact pathOf_segmented _

theorem withAuthority_parts {scheme : String} {kind : SchemeKind} {s : List Char} {u : Url}
    (read : withAuthority scheme kind s = .ok u) :
    u.scheme = scheme ∧ ∃ rest, u.path = pathAfterHost kind rest := by
  obtain ⟨⟨userInfo, s⟩, _, read⟩ := bind_eq_ok.1 read
  dsimp only at read
  split at read
  · cases read
  split at read
  all_goals
    obtain ⟨host, _, read⟩ := bind_eq_ok.1 read
    obtain ⟨⟨port, s⟩, _, read⟩ := bind_eq_ok.1 read
    cases read
    exact ⟨rfl, _, rfl⟩

theorem fileUrl_scheme {s : List Char} {u : Url} (read : fileUrl s = .ok u) : u.scheme = "file" := by
  unfold fileUrl at read
  dsimp only at read
  split at read
  · split at read
    · split at read
      · cases read
        rfl
      · split at read
        all_goals
          obtain ⟨host, _, read⟩ := bind_eq_ok.1 read
          cases read
          rfl
    · cases read
      rfl
  · cases read
    rfl
  · cases read
    rfl

theorem otherUrl_scheme {scheme : String} {s : List Char} {u : Url}
    (read : otherUrl scheme s = .ok u) : u.scheme = scheme := by
  unfold otherUrl at read
  split at read
  · exact (withAuthority_parts read).1
  · cases read
    rfl

theorem cleaned_eq {s : List Char} (printed : ∀ c ∈ s, 0x20 < c.toNat) : cleaned s = s := by
  have inside (t : List Char) (sub : t ⊆ s) : t.dropWhile (fun c => decide (c.toNat ≤ 0x20)) = t := by
    cases t with
    | nil => rfl
    | cons c rest =>
      have high := printed c (sub List.mem_cons_self)
      exact List.dropWhile_cons_of_neg (by simpa using high)
  simp only [cleaned]
  rw [inside s (List.Subset.refl s), inside s.reverse fun c => List.mem_reverse.1, List.reverse_reverse,
    List.filter_eq_self]
  intro c member
  have high := printed c member
  simp only [Bool.and_eq_true, bne_iff_ne]
  refine ⟨⟨?_, ?_⟩, ?_⟩ <;> rintro rfl <;> exact absurd high (by decide)

theorem cutScheme_eq_some {s rest : List Char} {scheme : String}
    (cut : cutScheme s = some (scheme, rest)) :
    ∃ front, s = front ++ ':' :: rest ∧ (∀ c ∈ front, isSchemeChar c = true) ∧
      scheme = String.ofList (front.map Char.toLower) ∧ front ≠ [] := by
  cases s with
  | nil => cases cut
  | cons c s =>
    rw [cutScheme] at cut
    split at cut
    · rename_i behind dropped
      split at cut
      · rename_i letter
        obtain ⟨rfl, rfl⟩ := Prod.mk.inj (Option.some.inj cut)
        have inScheme : isSchemeChar c = true := by
          simp [isSchemeChar, Char.isAlphanum, letter]
        refine ⟨(c :: s).takeWhile isSchemeChar, ?_, fun d => List.mem_takeWhile_imp, rfl, ?_⟩
        · rw [← dropped, List.takeWhile_append_dropWhile]
        · rw [List.takeWhile_cons_of_pos inScheme]
          exact List.cons_ne_nil _ _
      · cases cut
    · cases cut

theorem parse_scheme {text : String} {u : Url} (parsed : parse text = .ok u)
    (printed : ∀ c ∈ text.toList, 0x20 < c.toNat) :
    ∃ front rest, text.toList = front ++ ':' :: rest ∧ ∀ c ∈ front, isSchemeChar c = true := by
  unfold parse at parsed
  rw [cleaned_eq printed] at parsed
  split at parsed
  · cases parsed
  · rename_i scheme rest cut
    obtain ⟨front, split, inScheme, _⟩ := cutScheme_eq_some cut
    exact ⟨front, rest, split, inScheme⟩

theorem schemeKind_web {scheme : String} (web : scheme = "http" ∨ scheme = "https") :
    schemeKind scheme = .special := by
  rcases web with rfl | rfl <;> decide

theorem isWeb_iff (u : Url) : u.isWeb = true ↔ u.scheme = "http" ∨ u.scheme = "https" := by
  simp only [isWeb, Bool.or_eq_true, beq_iff_eq]

theorem parse_web {text : String} {u : Url} (parsed : parse text = .ok u) (web : u.isWeb = true) :
    ∃ rest, cutScheme (cleaned text.toList) = some (u.scheme, rest) ∧
      withAuthority u.scheme .special (rest.dropWhile (isSlash .special)) = .ok u := by
  rw [isWeb_iff] at web
  unfold parse at parsed
  split at parsed
  · cases parsed
  · rename_i scheme rest cut
    split at parsed
    · rw [fileUrl_scheme parsed] at web
      exact absurd web (by decide)
    · obtain ⟨rfl, _⟩ := withAuthority_parts parsed
      exact ⟨rest, cut, parsed⟩
    · rename_i other
      rw [otherUrl_scheme parsed] at web
      rw [schemeKind_web web] at other
      exact nomatch other

theorem web_segmented {text : String} {u : Url} (parsed : parse text = .ok u)
    (web : u.isWeb = true) : ∃ items, u.path = .segments items ∧ Segmented items := by
  obtain ⟨_, _, read⟩ := parse_web parsed web
  obtain ⟨_, path, same⟩ := withAuthority_parts read
  rw [same]
  exact pathAfterHost_segmented path

end DesignMarkup.Url
