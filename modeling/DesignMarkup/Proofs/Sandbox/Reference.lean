import DesignMarkup.Markup.Module
import DesignMarkup.Proofs.Markup.Placement
import DesignMarkup.Proofs.Sandbox.Rewriting
/-!
Bundled images are shown from their files: in the source of a project, the attribute `src` of every
element with a web address has the path of the file that is bundled for this address.
-/
namespace DesignMarkup
open Markup

namespace BundledAsset
open Url (SegmentText)

theorem served_verbatim {name : String} (segment : SegmentText name.toList) :
    ∀ c ∈ ("/assets/" ++ name).toList, c ∉ stringMarks := by
  intro c member mark
  rw [String.toList_append, List.mem_append] at member
  rcases member with folder | inName
  · have apart : "/assets/".toList.all (fun c => !stringMarks.contains c) = true := rfl
    simpa [mark] using List.all_eq_true.1 apart c folder
  · have encoded : stringMarks.all (fun c => Url.isSlash .special c || Url.inPath c) = true := rfl
    simpa [segment c inName] using List.all_eq_true.1 encoded c mark

end BundledAsset

namespace Markup

def moduleHead (imports : Imports) (component : String) : String :=
  let block := imports.render
  (if block = "" then "" else block ++ "\n\n") ++ "export default function " ++ component ++
    "() \x7b\n  return (\n    "

def moduleFoot : String := "\n  );\n\x7d\n"

theorem moduleSource_eq (imports : Imports) (component markup : String) :
    moduleSource imports component markup = moduleHead imports component ++ markup ++ moduleFoot := by
  simp only [moduleSource, moduleHead, moduleFoot, String.append_assoc]

end Markup

/-- The attribute `src` is the address of the asset, set or not, and no other one has its name. -/
structure OwnSource (d : Element) (url : String) : Prop where
  src : d.attributes.src = none ∨ d.attributes.src = some url
  only : ∀ entry ∈ d.attributes.extra, entry.1 ≠ "src"

instance (d : Element) (url : String) : Decidable (OwnSource d url) :=
  decidable_of_iff ((d.attributes.src = none ∨ d.attributes.src = some url) ∧
      ∀ entry ∈ d.attributes.extra, entry.1 ≠ "src")
    ⟨fun h => ⟨h.1, h.2⟩, fun h => ⟨h.src, h.only⟩⟩

structure ServedAt (files : Dict SandboxFile) (url path : String) : Prop where
  file : files.get? ("public" ++ path) = some (.remote url)
  folder : Text.startsWith path "/assets/" = true
  verbatim : ∀ c ∈ path.toList, c ∉ stringMarks

section
variable {d : Element} {url : String}

theorem OwnSource.outline (own : OwnSource d url) (shown : d.asset? = some url) :
    ∃ first others, d.outline.attributes = first ++ ("src", .string url) :: others ∧
      ∀ a ∈ first ++ others, a.1 ≠ "src" := by
  have source : d.attributes.src.or d.asset? = some url := by
    rcases own.src with unset | set
    · rw [unset, shown, Option.none_or]
    · rw [set, Option.some_or]
  refine ⟨(d.attributes.className.map fun s => ("className", .string s)).toList,
    (d.attributes.alt.map fun s => ("alt", .string s)).toList ++
      Element.outlineExtra d.attributes.extra ++ styleShown d.style, ?_, ?_⟩
  · rw [Element.outline_eq, commonShown, source]
    simp
  · intro a member name
    simp only [List.mem_append, Option.mem_toList, Option.map_eq_some_iff] at member
    rcases member with ⟨s, _, rfl⟩ | (⟨s, _, rfl⟩ | extra) | style
    · simp at name
    · simp at name
    · obtain ⟨_, value, inExtra, _⟩ := Element.mem_outlineExtra_iff.1 extra
      exact own.only _ inExtra name
    · unfold styleShown at style
      split at style
      · exact absurd style List.not_mem_nil
      · simp [List.mem_singleton.1 style] at name

theorem asset_print (shown : d.asset? = some url) {first others : List (String × Shown)}
    (attributes : d.outline.attributes = first ++ ("src", .string url) :: others) (k : Nat) :
    d.outline.print k = '<' :: d.tag.toList ++ printAttributes k first ++
      attributeChars (stringAttribute "src" url) ++ (printAttributes k others ++ " />".toList) := by
  have body : (Element.outlineContent d.content).print k d.tag = " />".toList := by
    unfold Element.asset? at shown
    split at shown
    · rename_i content
      rw [content, Element.outlineContent, Body.print]
    · cases shown
  rw [outline_print, body, attributes, printAttributes_append, stringAttribute_print k]
  simp only [printAttributes_eq, List.flatMap_cons, List.append_assoc, List.cons_append]

end

namespace Markup

theorem attributeName_noColon {key : String} (name : isAttributeName key = true) :
    ':' ∉ key.toList := by
  unfold isAttributeName at name
  split at name
  · cases name
  · rename_i c rest chars
    rw [Bool.and_eq_true, List.all_eq_true] at name
    rw [chars, List.mem_cons, not_or]
    constructor
    · rintro rfl
      exact absurd name.1 (by decide +kernel)
    · intro inside
      exact absurd (name.2 _ inside) (by decide +kernel)

theorem WrittenIn.before_clear {depth k : Nat} {e d : Element} {before after : List Char}
    (written : WrittenIn depth e k d before after) : before = [] ∨ EndsClear before := by
  induction written with
  | self => exact .inl rfl
  | @ofChild depth _ e _ _ first _ before _ _ _ ih =>
    right
    rcases ih with rfl | clear
    · rw [List.append_nil]
      refine EndsClear.append_left
        ⟨[], '\n', List.replicate (2 * (depth + 1)) ' ', rfl, by decide, ?_⟩ _
      simp
    · exact clear.append_left _
  | @ofAttribute depth _ e _ _ key first _ before _ _ name _ ih =>
    right
    rcases ih with rfl | clear
    · rw [List.append_nil, List.append_assoc]
      refine EndsClear.append_left ⟨[], ' ', key.toList ++ ['=', '\x7b'], rfl, by decide, ?_⟩ _
      simp [attributeName_noColon name]
    · exact clear.append_left _

theorem moduleHead_clear (imports : Imports) (component : String) :
    EndsClear (moduleHead imports component).toList := by
  have ending : (moduleHead imports component).toList =
      ((if imports.render = "" then "" else imports.render ++ "\n\n") ++ "export default function " ++
        component).toList ++ "() \x7b\n  return (\n    ".toList := by
    simp only [moduleHead, String.toList_append]
  rw [ending]
  exact EndsClear.append_left ⟨"() \x7b\n  return (".toList, '\n', "    ".toList, rfl, by decide,
    by decide⟩ _

end Markup

theorem printAttributes_startsBlank (k : Nat) (attributes : List (String × Shown)) :
    StartsBlank (printAttributes k attributes) := by
  intro c first
  cases attributes with
  | nil =>
    rw [printAttributes] at first
    cases first
  | cons a rest =>
    rw [printAttributes] at first
    obtain rfl : ' ' = c := by simpa using first
    decide

section
variable {assets : List BundledAsset} (h : BundledAsset.Rewritable assets)
include h
open BundledAsset

theorem rewrite_source {a : BundledAsset} (member : a ∈ assets) :
    ∃ literal, (literal = '"' :: a.servedPath.toList ++ ['"'] ∨
        literal = bracedChars ('"' :: a.servedPath.toList ++ ['"'])) ∧
      rewrite assets (attributeChars (stringAttribute "src" a.url)) = " src=".toList ++ literal := by
  have quotes : '"'.toNat ≤ 0x20 ∨ '"' = '"' := .inr rfl
  have own := rewrite_own h member
  unfold stringAttribute
  split
  · refine ⟨_, .inr rfl, ?_⟩
    have text : attributeChars ("src" ++ "=" ++ braced (Json.quote a.url)) =
        " src=\x7b".toList ++ '"' :: (a.url.toList ++ '"' :: ['\x7d']) := by
      simp [attributeChars, braced, (h.plain a member).quoted]
    rw [text, rewrite_mark h quotes, rewrite_mark h quotes, own, rewrite_relative h (by decide),
      rewrite_relative h (by decide)]
    simp [bracedChars]
  · refine ⟨_, .inl rfl, ?_⟩
    have text : attributeChars ("src" ++ "=\"" ++ a.url ++ "\"") =
        " src=".toList ++ '"' :: (a.url.toList ++ '"' :: []) := by
      simp [attributeChars]
    rw [text, rewrite_mark h quotes, rewrite_mark h quotes, own, rewrite_relative h (by decide),
      rewrite_nil h, List.cons_append]

/-- The tag with the attribute, and the rewritten one. All parts of it are rewritten for themselves.
-/
theorem rewrite_image {a : BundledAsset} (member : a ∈ assets) {front : List Char}
    (clear : EndsClear front) (k : Nat) (tag : List Char) (first others : List (String × Shown))
    (back : List Char) :
    ∃ literal, (literal = '"' :: a.servedPath.toList ++ ['"'] ∨
        literal = bracedChars ('"' :: a.servedPath.toList ++ ['"'])) ∧
      rewrite assets (front ++ '<' :: (tag ++ (printAttributes k first ++
          (attributeChars (stringAttribute "src" a.url) ++
            (printAttributes k others ++ (" />".toList ++ back)))))) =
        rewrite assets front ++ '<' :: (rewrite assets tag ++
          (rewrite assets (printAttributes k first) ++ (" src=".toList ++ literal ++
            (rewrite assets (printAttributes k others) ++
              (" />".toList ++ rewrite assets back))))) := by
  obtain ⟨literal, written, rewritten⟩ := rewrite_source h member
  refine ⟨literal, written, ?_⟩
  have closing : StartsBlank (" />".toList ++ back) := by
    intro c start
    obtain rfl : ' ' = c := by simpa using start
    decide
  have source : StartsBlank (attributeChars (stringAttribute "src" a.url)) := by
    intro c start
    obtain rfl : ' ' = c := by simpa [attributeChars] using start
    decide
  have ending : " />".toList.getLast? = some '>' := rfl
  have before := printAttributes_startsBlank k first
  have after := printAttributes_startsBlank k others
  have rest := after.append closing
  rw [rewrite_tag h clear, rewrite_append h (before.append (source.append rest)),
    rewrite_append h (source.append rest), rewrite_append h rest, rewrite_append h closing, rewritten,
    rewrite_lead h (by decide) ending (by decide)]

end

def pointed (tree : Element) (text : List Char) : List Char :=
  (pointAtBundled (String.ofList text) (remoteAssets tree)).toList

/-- In a source the element stands between `front` and `back`, with the attribute `src` for its
address; in the pointed source it stands in the same place, with the path instead. Whatever else
there is, also in the tag, is pointed for itself. -/
def ShownFrom (tree d : Element) (k : Nat) (source app front back : List Char) (url path : String) :
    Prop :=
  ∃ first others, d.outline.attributes = first ++ ("src", .string url) :: others ∧
    (∀ a ∈ first ++ others, a.1 ≠ "src") ∧
    source = front ++ '<' :: (d.tag.toList ++ (printAttributes k first ++
      (attributeChars (stringAttribute "src" url) ++
        (printAttributes k others ++ (" />".toList ++ back))))) ∧
    ∃ literal, (literal = '"' :: path.toList ++ ['"'] ∨
        literal = bracedChars ('"' :: path.toList ++ ['"'])) ∧
      app = pointed tree front ++ '<' :: (pointed tree d.tag.toList ++
        (pointed tree (printAttributes k first) ++ (" src=".toList ++ literal ++
          (pointed tree (printAttributes k others) ++ (" />".toList ++ pointed tree back)))))

section
variable {tree : Element}

theorem mem_remoteAssets_of_shown {d : Element} {url : String} (inside : d ∈ tree.visit)
    (shown : d.asset? = some url) (web : Url.isWebAddress url = true) :
    ∃ a ∈ remoteAssets tree, a.url = url := by
  have among : url ∈ (remoteAssets tree).map (·.url) := by
    rw [(remoteAssets_bundled tree).urls, webAddresses, List.mem_eraseDups, List.mem_filter,
      List.mem_filterMap]
    exact ⟨⟨d, inside, shown⟩, web⟩
  exact List.mem_map.1 among

theorem remoteAssets_plain (plain : ∀ d ∈ tree.visit, ∀ url ∈ d.asset?,
      Url.isWebAddress url = true → PlainAddress url) :
    ∀ a ∈ remoteAssets tree, PlainAddress a.url := by
  intro a member
  obtain ⟨d, inside, named⟩ := (remoteAssets_bundled tree).named a member
  exact plain d inside a.url named.shows named.web

theorem shownFrom_pointed {d : Element} {a : BundledAsset}
    (plain : ∀ a ∈ remoteAssets tree, PlainAddress a.url) (member : a ∈ remoteAssets tree)
    (own : OwnSource d a.url) (shown : d.asset? = some a.url) {front : List Char}
    (clear : EndsClear front) (k : Nat) (back : List Char) :
    ShownFrom tree d k (front ++ d.outline.print k ++ back)
      (pointed tree (front ++ d.outline.print k ++ back)) front back a.url a.servedPath := by
  have pointed_eq (text : List Char) :
      pointed tree text = BundledAsset.rewrite (replacements tree) text := by
    rw [pointed, pointAtBundled_toList, String.toList_ofList]
  obtain ⟨first, others, attributes, only⟩ := own.outline shown
  obtain ⟨literal, isLiteral, rewritten⟩ := rewrite_image (replacements_rewritable tree plain)
    ((mem_replacements tree).2 member) clear k d.tag.toList first others back
  have split : front ++ d.outline.print k ++ back = front ++ '<' :: (d.tag.toList ++
      (printAttributes k first ++ (attributeChars (stringAttribute "src" a.url) ++
        (printAttributes k others ++ (" />".toList ++ back))))) := by
    simp only [asset_print shown attributes, List.append_assoc, List.cons_append]
  refine ⟨first, others, attributes, only, split, literal, isLiteral, ?_⟩
  simp only [pointed_eq]
  rw [split, rewritten]

end

namespace SandboxProject
variable (p : SandboxProject) (source : String) (imports : Imports) {tree : Element}

theorem get?_app : (p.params source imports tree).files.get? "src/App.jsx" =
    some (.text (pointAtBundled source (remoteAssets tree))) := by
  refine p.get?_file source imports tree (List.mem_append_left _ ?_)
  simp [ownFiles]

theorem servedAt {a : BundledAsset} (member : a ∈ remoteAssets tree) :
    ServedAt (p.params source imports tree).files a.url a.servedPath := by
  obtain ⟨_, _, named⟩ := (remoteAssets_bundled tree).named a member
  obtain ⟨name, segment, file, served⟩ := named.served
  refine ⟨?_, ?_, ?_⟩
  · have path : a.path = "public" ++ a.servedPath := by
      rw [file, served]
      rfl
    rw [← path]
    refine p.get?_file source imports tree (List.mem_append_right _ ?_)
    exact List.mem_map.2 ⟨a, member, rfl⟩
  · rw [served, Text.startsWith, String.toList_append, List.isPrefixOf_iff_prefix]
    exact List.prefix_append ..
  · rw [served]
    exact BundledAsset.served_verbatim segment

end SandboxProject

/-- In the source of a project every image from the web that is written, without hooks, shows the
file that is bundled for its address. -/
theorem bundled_images_referenced {Memory : Type} [Inhabited Memory] (registry : Registry Memory)
    (nesting : Nat) (memory : Memory) (p : SandboxProject) (imports packages : Imports)
    (component : String) (tree : Frozen) (hookless : ∀ d ∈ tree.element.visit, d.template = none)
    (sourced : ∀ d ∈ tree.element.visit, ∀ url ∈ d.asset?, OwnSource d url)
    (plain : ∀ d ∈ tree.element.visit, ∀ url ∈ d.asset?, Url.isWebAddress url = true →
      PlainAddress url) :
    ∃ module runs app,
      renderModule? registry nesting imports component tree memory = some (module, runs) ∧
      let params := p.params module.source packages tree.element
      p.build module.source packages tree.element = .ok params ∧
      params.files.get? "src/App.jsx" = some (.text app) ∧
      (∀ d, tree.element.Shows d → ∃ k before after,
        WrittenIn moduleDepth tree.element k d before after) ∧
      ∀ k d before after url, WrittenIn moduleDepth tree.element k d before after →
        d.asset? = some url → Url.isWebAddress url = true → ∃ path,
          ServedAt params.files url path ∧
          ShownFrom tree.element d k module.source.toList app.toList
            ((moduleHead imports component).toList ++ before) (after ++ moduleFoot.toList) url
            path := by
  obtain ⟨r, ran, printed⟩ := rendering_prints registry nesting moduleDepth tree memory hookless
  let source := moduleSource imports component r.markup
  refine ⟨⟨source, r.findings⟩, r.runs, pointAtBundled source (remoteAssets tree.element), ?_,
    p.build_params source packages tree.element, p.get?_app source packages,
    fun d shows => written_of_shows shows moduleDepth, ?_⟩
  · rw [renderModule?, ran]
    rfl
  · intro k d before after url written shown web
    have inside : d ∈ tree.element.visit := Element.mem_visit_iff.2 written.shows.reaches
    obtain ⟨a, member, rfl⟩ := mem_remoteAssets_of_shown inside shown web
    refine ⟨a.servedPath, p.servedAt source packages member, ?_⟩
    have clear : EndsClear ((moduleHead imports component).toList ++ before) := by
      rcases written.before_clear with rfl | clear
      · rw [List.append_nil]
        exact moduleHead_clear imports component
      · exact clear.append_left _
    have image := shownFrom_pointed (remoteAssets_plain plain) member (sourced d inside a.url shown)
      shown clear k (after ++ moduleFoot.toList)
    have chars : (moduleHead imports component).toList ++ before ++ d.outline.print k ++
        (after ++ moduleFoot.toList) = source.toList := by
      simp only [source, moduleSource_eq, String.toList_append, printed, written.print,
        List.append_assoc]
    rw [chars, pointed, String.ofList_toList] at image
    exact image

theorem renderModule?_plain (imports : Imports) (component : String) (tree : Frozen) :
    renderModule? ([] : Registry) 0 imports component tree =
      some (plainModule imports component tree, (renderPlain moduleDepth tree).runs) := by
  have rendered : renderAt? ([] : Registry) 0 moduleDepth tree =
      some (renderPlain moduleDepth tree) := (Option.some_get _).symm
  rw [renderModule?, rendered]
  rfl

def image (name id url : String) : Element :=
  ((Element.of "img" name "VECTOR").withId id).withAsset url

def previewFiles (tree : Frozen) : Dict SandboxFile :=
  let project : SandboxProject := { mode := .scss }
  (project.params (plainModule [] "App" tree).source [] tree.element).files

theorem previewFiles_app {tree : Frozen}
    (hookless : ∀ d ∈ tree.element.visit, d.template = none)
    (longestFirst : (remoteAssets tree.element).Pairwise
      fun a b => decide (b.url.utf8ByteSize ≤ a.url.utf8ByteSize) = true) :
    ∃ app, (previewFiles tree).get? "src/App.jsx" = some (.text app) ∧
      app.toList = BundledAsset.rewrite (remoteAssets tree.element)
        ((moduleHead [] "App").toList ++ tree.element.outline.print moduleDepth ++
          moduleFoot.toList) := by
  refine ⟨_, SandboxProject.get?_app _ _ _, ?_⟩
  rw [pointAtBundled_toList, replacements, List.mergeSort_of_pairwise longestFirst, plainModule,
    moduleSource_eq, String.toList_append, String.toList_append, renderPlain_prints _ hookless]

/-- The second address begins with the first one, which is there twice. -/
def gallery : Frozen where
  element := (Element.of "div" "Gallery" "FRAME").withChildren
    [image "One" "1" "http://[::1]/a.png", image "Two" "2" "http://[::1]/a.png.gif",
      image "Three" "3" "http://[::1]/a.png"]
  sound := by decide

theorem gallery_images_referenced :
    let url := "http://[::1]/a.png.gif"
    let shown := image "Two" "2" url
    (∀ d ∈ gallery.element.visit, d.template = none) ∧
    (∀ d ∈ gallery.element.visit, ∀ url ∈ d.asset?, OwnSource d url) ∧
    (∀ d ∈ gallery.element.visit, ∀ url ∈ d.asset?, Url.isWebAddress url = true →
      PlainAddress url) ∧
    ∃ app k before after path, (previewFiles gallery).get? "src/App.jsx" = some (.text app) ∧
      WrittenIn moduleDepth gallery.element k shown before after ∧
      ServedAt (previewFiles gallery) url path ∧
      ShownFrom gallery.element shown k (plainModule [] "App" gallery).source.toList app.toList
        ((moduleHead [] "App").toList ++ before) (after ++ moduleFoot.toList) url path := by
  intro url shown
  have hookless : ∀ d ∈ gallery.element.visit, d.template = none := by decide
  have sourced : ∀ d ∈ gallery.element.visit, ∀ url ∈ d.asset?, OwnSource d url := by decide
  have allPlain : ∀ d ∈ gallery.element.visit, ∀ url ∈ d.asset?, PlainAddress url := by
    decide +kernel
  have plain : ∀ d ∈ gallery.element.visit, ∀ url ∈ d.asset?, Url.isWebAddress url = true →
      PlainAddress url := fun d inside url named _ => allPlain d inside url named
  obtain ⟨module, runs, app, rendered, _, file, placed, images⟩ :=
    bundled_images_referenced ([] : Registry) 0 () { mode := .scss } [] [] "App" gallery hookless
      sourced plain
  obtain rfl : plainModule [] "App" gallery = module := by
    rw [renderModule?_plain] at rendered
    exact congrArg Prod.fst (Option.some.inj rendered)
  obtain ⟨k, before, after, written⟩ := placed shown
    (.ofChild (c := shown) (List.mem_cons_of_mem _ List.mem_cons_self) (.self _))
  obtain ⟨path, served, shownFrom⟩ := images k shown before after url written rfl (by decide +kernel)
  exact ⟨hookless, sourced, plain, app, k, before, after, path, file, written, served, shownFrom⟩

/-- An address with blanks is the text between two attributes. -/
def spliced : Frozen where
  element :=
    (((Element.of "div" "Card" "FRAME").withAttribute "cover"
      (.element (image "Wide" "w" "http://[::1]/b</span>\x7d image=\x7b<img src="))).withAttribute
        "icon" (.element ((Element.of "span" "Label" "TEXT").withText "http://[::1]/b"))).withAttribute
          "image" (.element (image "Logo" "u" "http://[::1]/logo.png"))
  sound := by decide

def skipped : Frozen where
  element := (Element.of "div" "Card" "FRAME").withAttribute "1st"
    (.element (image "Logo" "u" "http://[::1]/logo.png"))
  sound := by decide

/-- All addresses are from the web and without what has to be escaped. The image has a file, and the
attribute with its path is not in the source. -/
def IsUnreferenced (tree : Frozen) (shown : Element) (path : String) : Prop :=
  (∀ d ∈ tree.element.visit, d.template = none) ∧
  (∀ d ∈ tree.element.visit, ∀ url ∈ d.asset?, OwnSource d url ∧ Url.isWebAddress url = true ∧
    Text.mentions url "://" = true ∧
    url.toList.all (fun c => 0x20 ≤ c.toNat ∧ c.toNat < 0x7f ∧ c ≠ '"' ∧ c ≠ '\\') = true) ∧
  shown ∈ tree.element.visit ∧
  (previewFiles tree).get? ("public" ++ path) = shown.asset?.map .remote ∧
  ∃ app, (previewFiles tree).get? "src/App.jsx" = some (.text app) ∧
    Text.mentions app ("src=\"" ++ path ++ "\"") = false ∧
    Text.mentions app ("src=\x7b\"" ++ path ++ "\"\x7d") = false

/-- An image can lose its attribute to an address that matches across it, and is bundled also where
it is not written. -/
theorem images_unreferenced :
    IsUnreferenced spliced (image "Logo" "u" "http://[::1]/logo.png") "/assets/u.png" ∧
    IsUnreferenced skipped (image "Logo" "u" "http://[::1]/logo.png") "/assets/u.png" := by
  constructor
  · have hookless : ∀ d ∈ spliced.element.visit, d.template = none := by decide +kernel
    obtain ⟨app, file, chars⟩ := previewFiles_app hookless (by decide +kernel)
    refine ⟨hookless, by decide +kernel, ?_, by decide +kernel, app, file, ?_⟩
    · exact .tail _ (.tail _ (.tail _ (.head _)))
    · rw [Text.mentions, Text.mentions, chars]
      decide +kernel
  · have hookless : ∀ d ∈ skipped.element.visit, d.template = none := by decide +kernel
    obtain ⟨app, file, chars⟩ := previewFiles_app hookless (by decide +kernel)
    refine ⟨hookless, by decide +kernel, ?_, by decide +kernel, app, file, ?_⟩
    · exact .tail _ (.head _)
    · rw [Text.mentions, Text.mentions, chars]
      decide +kernel

end DesignMarkup
