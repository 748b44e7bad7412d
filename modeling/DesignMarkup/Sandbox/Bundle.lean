import DesignMarkup.Element.Basic
import DesignMarkup.Text.Basic
import DesignMarkup.Url.Basic
/-!
Remote assets of an element and the names under which a project bundles them. The first element in
order to show an asset names its file; a name that is taken gets a number.
-/
namespace DesignMarkup

structure BundledAsset where
  url : String
  path : String
deriving DecidableEq, Repr

namespace BundledAsset

def extensionOf? (address : String) : Option String :=
  match Url.parse address with
  | .error _ => none
  | .ok url =>
    if url.isWeb then
      let found := (url.lastSegment?.bind (Text.splitLast? · '.')).map fun (_, extension) =>
        Text.asciiLower extension
      some ((found.filter (!·.isEmpty)).getD "png")
    else none

/-- The `n`-th name to try, numbered from the second one on. -/
def candidate (stem extension : String) (n : Nat) : String :=
  "public/assets/" ++ stem ++ (if n = 0 then "" else "-" ++ toString (n + 1)) ++ "." ++ extension

/-- One of the first names, more of them than are taken, is free. -/
def freeName (taken : List String) (stem extension : String) : String :=
  let names := (List.range (taken.length + 1)).map (candidate stem extension)
  (names.find? (!taken.contains ·)).getD ""

def stemOf (e : Element) : String :=
  let stem := Text.slug (e.id.getD e.name)
  if stem.isEmpty then "asset" else stem

def add (assets : List BundledAsset) (e : Element) : List BundledAsset :=
  match e.asset? with
  | none => assets
  | some url =>
    match extensionOf? url with
    | none => assets
    | some extension =>
      if assets.any (·.url == url) then assets
      else assets ++ [⟨url, freeName (assets.map (·.path)) (stemOf e) extension⟩]

end BundledAsset

def remoteAssets (tree : Element) : List BundledAsset := tree.visit.foldl BundledAsset.add []

def BundledAsset.servedPath (a : BundledAsset) : String :=
  if Text.startsWith a.path "public" then Text.dropChars a.path "public".length else a.path

/-- Replaces addresses by the paths of their bundled files; longer addresses go first, as one may
begin with another. -/
def pointAtBundled (source : String) (assets : List BundledAsset) : String :=
  let longestFirst := assets.mergeSort fun a b => b.url.utf8ByteSize ≤ a.url.utf8ByteSize
  longestFirst.foldl (fun text a => Text.replaceAll text a.url a.servedPath) source

end DesignMarkup
