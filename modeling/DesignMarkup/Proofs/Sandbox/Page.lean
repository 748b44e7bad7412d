import DesignMarkup.Proofs.Html.Reading
import DesignMarkup.Proofs.Sandbox.Assembly
/-!
The page of a project with a title, as a reader of HTML takes it. The title is written as it is, so
it is read as it was given exactly if nothing in it means something else in the text of a title.
-/
namespace DesignMarkup.SandboxProject
open Html

def pageHead : String :=
  "<!DOCTYPE html>\n<html lang=\"en\">\n  <head>\n    <meta charset=\"utf-8\" />\n    <title>"

def pageFoot : String := "\n  </head>\n  <body>\n    <div id=\"root\"></div>\n  </body>\n</html>\n"

theorem pageSource_toList (title : String) : (pageSource title).toList =
    pageHead.toList ++ (title.toList ++ (titleEnd ++ '>' :: pageFoot.toList)) := by
  have foot : "</title>\n  </head>\n  <body>\n    <div id=\"root\"></div>\n  </body>\n</html>\n" =
      String.ofList (titleEnd ++ ['>']) ++ pageFoot := rfl
  have parts : pageSource title =
      pageHead ++ title ++ (String.ofList (titleEnd ++ ['>']) ++ pageFoot) := by
    unfold pageSource
    rw [foot]
    rfl
  rw [parts, String.toList_append, String.toList_append, String.toList_append, String.toList_ofList,
    List.append_assoc, List.append_assoc, List.singleton_append]

theorem pageHead_read : Mode.text.after pageHead.toList = .title [] ∧
    (Mode.text.tokens pageHead.toList).findSome? Token.title? = none ∧ '\r' ∉ pageHead.toList := by
  decide +kernel

theorem joinBreaks_page (title : String) : joinBreaks (pageSource title).toList =
    pageHead.toList ++ (joinBreaks title.toList ++ (titleEnd ++ '>' :: joinBreaks pageFoot.toList)) := by
  have closing : '\r' ∉ titleEnd ++ ['>'] := by decide
  have apart : (titleEnd ++ '>' :: pageFoot.toList).head? ≠ some '\n' := by
    rw [titleEnd, List.cons_append, List.head?_cons]
    decide
  rw [pageSource_toList, joinBreaks_append (.inl pageHead_read.2.2), joinBreaks_append (.inr apart),
    joinBreaks_free pageHead_read.2.2, List.append_cons titleEnd, joinBreaks_append (.inl closing),
    joinBreaks_free closing, ← List.append_cons]

theorem tokens_page (title : String) : (reading (pageSource title)).1 =
    Mode.text.tokens pageHead.toList ++ ((Mode.title []).tokens (joinBreaks title.toList) ++
      ((Mode.title []).after (joinBreaks title.toList)).tokens
        (titleEnd ++ '>' :: joinBreaks pageFoot.toList)) := by
  rw [reading, joinBreaks_page, tokens_append, tokens_append, pageHead_read.1]

section title
variable (names : String → Option (Char × Option Char)) {title : String}

theorem reading_page (apart : ¬ Closes (joinBreaks title.toList)) : reading (pageSource title) =
    (Mode.text.tokens pageHead.toList ++ .title (joinBreaks title.toList) ::
        .tag ⟨true, "title", []⟩ :: Mode.text.tokens (joinBreaks pageFoot.toList),
      Mode.text.after (joinBreaks pageFoot.toList)) := by
  obtain ⟨tokens, after⟩ := title_written apart (joinBreaks pageFoot.toList)
  rw [reading, joinBreaks_page, tokens_append, after_append, pageHead_read.1, tokens, after]

theorem outline_page (apart : ¬ Closes (joinBreaks title.toList)) :
    outline (pageSource title) = outline (pageSource "") := by
  have untitled : ¬ Closes (joinBreaks "".toList) := not_closes_nil
  rw [outline, outline, reading_page apart, reading_page untitled]
  simp only [List.map_append, List.map_cons, Token.outline]

theorem titleOf?_page (apart : ¬ Closes (joinBreaks title.toList)) :
    titleOf? names (pageSource title) = some (shownAs names (joinBreaks title.toList)) := by
  rw [titleOf?, reading_page apart, List.findSome?_append, pageHead_read.2.1]
  rfl

theorem titleOf?_page_closed (closes : Closes (joinBreaks title.toList)) :
    ∃ shown, titleOf? names (pageSource title) = some (shownAs names shown) ∧
      shown.length < title.toList.length := by
  have apart : ¬ Closes (List.reverse []) := not_closes_nil
  obtain ⟨shown, more, tokens, shorter⟩ := title_closed apart closes
  refine ⟨shown, ?_, Nat.lt_of_lt_of_le shorter (joinBreaks_length_le _)⟩
  rw [titleOf?, tokens_page, tokens, List.findSome?_append, pageHead_read.2.1]
  rfl

theorem titleOf?_page_iff :
    titleOf? names (pageSource title) = some title.toList ↔ Plain names title.toList := by
  constructor
  · intro shows
    by_cases closes : Closes (joinBreaks title.toList)
    · obtain ⟨shown, shows', shorter⟩ := titleOf?_page_closed names closes
      rw [shows, Option.some.injEq] at shows'
      have short : (shownAs names shown).length ≤ shown.length := shownAs_length_le shown
      rw [← shows'] at short
      exact absurd shorter (Nat.not_lt_of_le short)
    · rw [titleOf?_page names closes, Option.some.injEq, shownAs_joinBreaks_eq_iff] at shows
      obtain ⟨free, noReturn, noNull⟩ := shows
      rw [joinBreaks_free noReturn] at closes
      exact ⟨closes, free, noReturn, noNull⟩
  · intro plain
    rw [titleOf?_page names plain.joined, Option.some.injEq, shownAs_joinBreaks_eq_iff]
    exact ⟨plain.free, plain.noReturn, plain.noNull⟩

end title

/-- The page is the one without a title but for the title, and this is shown as it was given. -/
structure ShowsTitle (names : String → Option (Char × Option Char)) (page title : String) : Prop where
  outline : outline page = outline (pageSource "")
  title : titleOf? names page = some title.toList

theorem get?_page (p : SandboxProject) (title source : String) (imports : Imports) (tree : Element) :
    ({ p with title := some title }.params source imports tree).files.get? "public/index.html" =
      some (.text (pageSource title)) :=
  get?_file _ source imports tree (List.mem_append_left _ (List.mem_cons_of_mem _
    (List.mem_cons_of_mem _ (List.mem_cons_of_mem _ List.mem_cons_self))))

/-- A project has its page under every title. The page has the tags and characters of the page without
a title unless the title has the end of one in it, and it shows the title as it was given exactly if
the title is plain. -/
theorem page_shows_title_iff (names : String → Option (Char × Option Char)) (p : SandboxProject)
    (title source : String) (imports : Imports) (tree : Element) :
    ∃ params page, { p with title := some title }.build source imports tree = .ok params ∧
      params.files.get? "public/index.html" = some (.text page) ∧
      (¬ Closes (joinBreaks title.toList) → outline page = outline (pageSource "")) ∧
      (ShowsTitle names page title ↔ Plain names title.toList) := by
  refine ⟨_, pageSource title, build_params _ source imports tree,
    get?_page p title source imports tree, outline_page, ?_⟩
  constructor
  · intro shows
    exact (titleOf?_page_iff names).1 shows.title
  · intro plain
    exact ⟨outline_page plain.joined, (titleOf?_page_iff names).2 plain⟩

example : Plain markupNames "D2C Preview".toList := Plain.of_unmarked (by decide) (by decide)

def headingTitle : String := "</title><h1>Hi</h1>"

def headingTag : Tag := ⟨false, "h1", []⟩

/-- A title can have a heading in it, which the page then has in place of the title. -/
theorem heading_in_title :
    let project : SandboxProject := { mode := .scss, title := some headingTitle }
    let page := pageSource headingTitle
    ∃ params, project.build "" [] (Element.of "div" "" "FRAME") = .ok params ∧
      params.files.get? "public/index.html" = some (.text page) ∧
      .tag headingTag ∈ (reading page).1 ∧ .tag headingTag ∉ (reading (pageSource "")).1 ∧
      titleOf? markupNames page = some [] ∧ ¬ ShowsTitle markupNames page headingTitle := by
  intro project page
  have inside : (Mode.title []).tokens (joinBreaks headingTitle.toList) =
      [.title [], .tag ⟨true, "title", []⟩, .tag headingTag, .char 'H', .char 'i',
        .tag ⟨true, "h1", []⟩] := by
    decide +kernel
  have untitled : .tag headingTag ∉ (reading (pageSource "")).1 := by
    decide +kernel
  have empty : titleOf? markupNames page = some [] := by
    rw [titleOf?, tokens_page, List.findSome?_append, pageHead_read.2.1, inside]
    exact congrArg some (dereference_free not_refers_nil)
  refine ⟨_, build_params project "" [] _, get?_page { mode := .scss } headingTitle "" [] _, ?_,
    untitled, empty, fun shows => ?_⟩
  · rw [tokens_page, inside]
    simp
  · have title := shows.title
    rw [empty] at title
    exact absurd title (by decide)

end DesignMarkup.SandboxProject
