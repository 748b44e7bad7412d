import DesignMarkup.Element.Basic
/-!
The imports that an element and everything below it need, by package. Where a component is claimed
with both import kinds, the first claim decides and the conflict is told.
-/
namespace DesignMarkup

structure ImportBinding where
  name : String
  isDefault : Bool
deriving DecidableEq, Repr

abbrev Imports := Dict (List ImportBinding)

/-- `nodeIds` names the first claimant and those that claim the other kind. -/
structure ImportConflict where
  component : String
  package : String
  keptDefault : Bool
  nodeIds : List String
deriving DecidableEq, Repr

structure Claim where
  id : Option String
  dependency : Dependency

def Identity.atMost (a b : Identity) : Bool :=
  a.package < b.package || (a.package == b.package && a.component ≤ b.component)

def Element.claims (e : Element) : List Claim :=
  e.visit.flatMap fun x => x.dependencies.entries.map fun d => ⟨x.id, d⟩

def identities (claims : List Claim) : List Identity :=
  (claims.map (·.dependency.identity)).eraseDups.mergeSort Identity.atMost

def claimsOf (key : Identity) (claims : List Claim) : List Claim :=
  claims.filter (·.dependency.identity == key)

def binding? (claims : List Claim) (key : Identity) : Option ImportBinding :=
  (claimsOf key claims).head?.map fun first => ⟨key.component, first.dependency.isDefault⟩

def conflict? (claims : List Claim) (key : Identity) : Option ImportConflict :=
  match claimsOf key claims with
  | [] => none
  | first :: rest =>
    match rest.filter (·.dependency.isDefault != first.dependency.isDefault) with
    | [] => none
    | others =>
      some ⟨key.component, key.package, first.dependency.isDefault,
        first.id.toList ++ others.filterMap (·.id)⟩

def importsOf (claims : List Claim) : Imports :=
  let keys := identities claims
  (keys.map Identity.package).eraseDups.map fun package =>
    (package, (keys.filter (·.package == package)).filterMap (binding? claims))

def conflictsOf (claims : List Claim) : List ImportConflict :=
  (identities claims).filterMap (conflict? claims)

def Element.imports (e : Element) : Imports := importsOf e.claims

def Element.importConflicts (e : Element) : List ImportConflict := conflictsOf e.claims

def importStatement (clause package : String) : String :=
  "import " ++ clause ++ " from '" ++ package ++ "';"

/-- A module has one default export, so further default bindings have statements of their own. -/
def packageStatements (package : String) (bindings : List ImportBinding) : List String :=
  let defaults := (bindings.filter (·.isDefault)).map (·.name)
  let named := (bindings.filter (!·.isDefault)).map (·.name)
  let group := if named.isEmpty then [] else ["\x7b " ++ ", ".intercalate named ++ " \x7d"]
  let clause := defaults.take 1 ++ group
  (if clause.isEmpty then [] else [importStatement (", ".intercalate clause) package]) ++
    (defaults.drop 1).map fun name => importStatement name package

def Imports.render (imports : Imports) : String :=
  "\n".intercalate
    (List.flatMap (fun (package, bindings) => packageStatements package bindings) imports)

open Json Decode Shape

def ImportBinding.decode : Decoder ImportBinding :=
  Shape.decode "ImportSpec" <|
    mk <$> required "name" string <*> withDefault "defaultModule" false bool

def ImportBinding.encode (b : ImportBinding) : Json :=
  .object [("name", .string b.name), ("defaultModule", .bool b.isDefault)]

def Imports.decode : Decoder Imports := dict (list ImportBinding.decode)

def Imports.encode (imports : Imports) : Json :=
  .object (imports.mapValues fun bindings => .array (bindings.map ImportBinding.encode))

def ImportConflict.encode (c : ImportConflict) : Json :=
  .object [("componentName", .string c.component), ("packageName", .string c.package),
    ("keptDefault", .bool c.keptDefault), ("nodeIds", Json.strings c.nodeIds)]

end DesignMarkup
