import DesignMarkup.Element.Basic
import DesignMarkup.Style.Codec
/-!
Elements as JSON. Text, asset and children exclude each other; an attribute is tagged as `data` or
as `node`.
-/
namespace DesignMarkup
open Json Decode Shape

def Attributes.entries (a : Attributes) : List (String × Json) :=
  entry? "className" (a.className.map .string) ++ entry? "src" (a.src.map .string) ++
    entry? "alt" (a.alt.map .string)

def tagged (kind : String) (value : Json) : Json :=
  .object [("kind", .string kind), ("value", value)]

namespace Element

mutual

def encode : Element → Json
  | { tag, package, isDefault, style, attributes, content, dependencies, name, kind, id,
      template } =>
    .object (("tag", .string tag) :: entry? "packageName" (package.map .string) ++
      [("defaultModule", .bool isDefault), ("style", style.encode),
        ("props", encodeAttributes attributes)] ++
      encodeChildren content ++
      [("dependencies", dependencies.encode), ("name", .string name), ("type", .string kind)] ++
      encodePayload content ++ entry? "id" (id.map .string) ++
      entry? "toTemplate" (template.map .string))

def encodeAttributes : Attributes → Json
  | { className, src, alt, extra } =>
    .object (Attributes.entries ⟨className, src, alt, []⟩ ++ encodeExtra extra)

def encodeExtra : List (String × Attribute) → List (String × Json)
  | [] => []
  | (key, value) :: rest => (key, encodeAttribute value) :: encodeExtra rest

def encodeAttribute : Attribute → Json
  | .element e => tagged "node" (encode e)
  | .data v => tagged "data" v

def encodeChildren : Content → List (String × Json)
  | .children [] => []
  | .children (e :: rest) => [("children", .array (encode e :: encodeAll rest))]
  | _ => []

def encodePayload : Content → List (String × Json)
  | .children _ => []
  | .text s => [("text", .string s)]
  | .asset url => [("asset", .string url)]

def encodeAll : List Element → List Json
  | [] => []
  | e :: rest => encode e :: encodeAll rest

end

/-- The fields of a written element, before they are known to fit together. -/
structure Parts where
  tag : String
  package : Option String
  isDefault : Bool
  style : Style
  attributes : Attributes
  children : List Element
  dependencies : DependencySet
  name : String
  kind : String
  text : Option String
  asset : Option String
  id : Option String
  template : Option String

def contentOf (text asset : Option String) (children : List Element) : Except Refusal Content :=
  match text, asset, children with
  | some _, some _, _ => refuse (.other "node carries both text and asset")
  | some s, none, [] => .ok (.text s)
  | some _, none, _ => refuse (.other "node with text must not have children")
  | none, some url, [] => .ok (.asset url)
  | none, some _, _ => refuse (.other "node with asset must not have children")
  | none, none, items => .ok (.children items)

def Parts.toElement (p : Parts) : Except Refusal Element := do
  if p.tag = "" then refuse (.other "tag must not be empty")
  let content ← contentOf p.text p.asset p.children
  return { p with content }

inductive AttributeKind where
  | node
  | data
deriving DecidableEq, Repr

instance : Keyword AttributeKind := ⟨[("node", .node), ("data", .data)]⟩

def decodeAttribute (element : Decoder Element) : Decoder Attribute := fun o v =>
  let expected := "adjacently tagged enum PropValue"
  let value (kind : AttributeKind) (v : Json) : Except Refusal Attribute :=
    match kind with
    | .node => (element o v).map .element
    | .data => .ok (.data v)
  match v with
  | .object fields =>
    match Dict.get? fields "kind", Dict.get? fields "value" with
    | none, _ => refuse (.missing "kind")
    | some k, payload => do
      let kind ← Keyword.decode o k
      match payload with
      | some v => value kind v
      | none => refuse (.missing "value")
  | .array [] => refuse (.wrongLength 0 expected)
  | .array (k :: rest) => do
    let kind ← Keyword.decode o k
    match rest with
    | [] => refuse (.wrongLength 1 expected)
    | [v] => value kind v
    | v :: more => do
      let _ ← value kind v
      refuse (.wrongLength (more.length + 2) "2 elements in sequence")
  | _ => refuse (.wrongType v expected)

def commonAttributes : Shape (List (String × Attribute) → Attributes) :=
  Attributes.mk <$> optionalLast "className" string <*> optionalLast "src" string <*>
    optionalLast "alt" string

def isCommon (key : String) : Bool := ["className", "src", "alt"].contains key

def decodeAttributes (element : Decoder Element) : Decoder Attributes := fun o v =>
  match v with
  | .object fields => do
    let attributes ← decodeKeyed "struct Props" commonAttributes o fields
    let extra ← entries (decodeAttribute element) .buffered
      (List.filter (fun entry => !isCommon entry.1) fields)
    return attributes extra
  | _ => refuse (.wrongType v "struct Props")

def parts (element : Decoder Element) : Shape Parts :=
  Parts.mk <$> required "tag" string <*> optionalLast "packageName" string <*>
    withDefault "defaultModule" false bool <*> withDefault "style" {} Style.decode <*>
    withDefault "props" .empty (decodeAttributes element) <*>
    withDefault "children" [] (list element) <*>
    withDefault "dependencies" .empty DependencySet.decode <*> withDefault "name" "" string <*>
    withDefault "type" "" string <*> optionalLast "text" string <*> optionalLast "asset" string <*>
    optionalLast "id" string <*> optionalLast "toTemplate" string

/-- An element is lower than the value it is read from. -/
def decodeWithin : (height : Nat) → Decoder Element
  | 0 => fun _ v => refuse (.wrongType v "struct TreeNodeRepr")
  | n + 1 => fun o v => do
    (← Shape.decode "TreeNodeRepr" (parts (decodeWithin n)) o v).toElement

def decode : Decoder Element := fun o v => decodeWithin v.height o v

end Element
end DesignMarkup
