import DesignMarkup.Json.Shape
/-!
Components that an element takes from packages. A set holds each pair of package and component once,
in the order of first insertion and with the import kind of that insertion.
-/
namespace DesignMarkup

structure Identity where
  package : String
  component : String
deriving DecidableEq, Repr

structure Dependency where
  component : String
  package : String
  /-- A default import, and not a named one. -/
  isDefault : Bool
deriving DecidableEq, Repr

def Dependency.identity (d : Dependency) : Identity := ⟨d.package, d.component⟩

structure DependencySet where
  entries : List Dependency
  unique : (entries.map Dependency.identity).Nodup

inductive InsertOutcome where
  | inserted
  | duplicate
  /-- The same component with the other import kind; `keptDefault` is the kind that stays. -/
  | conflict (keptDefault : Bool)
deriving DecidableEq, Repr

namespace DependencySet

def empty : DependencySet := ⟨[], .nil⟩

def find? (s : DependencySet) (key : Identity) : Option Dependency :=
  s.entries.find? fun d => d.identity = key

def get? (s : DependencySet) (component package : String) : Option Dependency :=
  s.find? ⟨package, component⟩

def isEmpty (s : DependencySet) : Bool := s.entries.isEmpty

theorem nodup_append_of_find?_none {s : DependencySet} {d : Dependency}
    (h : s.find? d.identity = none) : ((s.entries ++ [d]).map Dependency.identity).Nodup := by
  have absent : ∀ e ∈ s.entries, e.identity ≠ d.identity := by
    simpa [find?] using h
  rw [List.map_append, List.nodup_append]
  refine ⟨s.unique, by simp, ?_⟩
  intro a ha b hb
  obtain ⟨e, he, rfl⟩ := List.mem_map.1 ha
  obtain rfl : b = d.identity := by simpa using hb
  exact absent e he

/-- The first insertion of a component stays. -/
def insert (s : DependencySet) (d : Dependency) : DependencySet × InsertOutcome :=
  match h : s.find? d.identity with
  | none => (⟨s.entries ++ [d], nodup_append_of_find?_none h⟩, .inserted)
  | some e => (s, if e.isDefault = d.isDefault then .duplicate else .conflict e.isDefault)

def ofList (entries : List Dependency) : DependencySet :=
  entries.foldl (fun s d => (s.insert d).1) empty

end DependencySet

open Json Decode Shape

def Dependency.decode : Decoder Dependency :=
  Shape.decode "Dependency" <|
    mk <$> required "componentName" string <*> required "packageName" string <*>
      withDefault "defaultModule" false bool

def Dependency.encode (d : Dependency) : Json :=
  .object [("componentName", .string d.component), ("packageName", .string d.package),
    ("defaultModule", .bool d.isDefault)]

def DependencySet.decode : Decoder DependencySet := fun o v =>
  (list Dependency.decode o v).map ofList

def DependencySet.encode (s : DependencySet) : Json := .array (s.entries.map Dependency.encode)

end DesignMarkup
