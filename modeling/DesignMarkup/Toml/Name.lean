import DesignMarkup.Toml.Table
/-!
Settings whose value is one of several names. A name is written as a string, or as the key of a
table whose value holds nothing.
-/
namespace DesignMarkup.Toml

def Node.excess? : Node → Option String
  | .table _ _ entries => if entries.isEmpty then none else some "expected empty table"
  | .array items _ => if items.isEmpty then none else some "expected empty table"
  | .tables items => if items.isEmpty then none else some "expected empty array"
  | node => some ("expected table, found " ++ node.type)

def knownName (known : List String) (place : Span) (name : String) : Reading String :=
  if known.contains name then .ok name
  else refuseAt place (Json.Reason.unknownName name known).message

/-- An inline table has one entry; of another table the first entry counts. What is wrong is told at
`place` where no place of its own is known. -/
def Node.name (known : List String) (place : Span) (node : Node) : Reading String :=
  let here := node.span?.getD place
  match node with
  | .scalar (.string name) _ => knownName known here name
  | .table .inline _ [] => refuseAt here "wanted exactly 1 element, found 0 elements"
  | .table .inline _ (_ :: _ :: _) => refuseAt here "wanted exactly 1 element, more than 1 element"
  | .table _ _ [] => refuseAt here "expected table with exactly 1 entry, found empty table"
  | .table _ _ ((name, keyPlace, payload) :: _) => do
    let name ← knownName known keyPlace name
    match payload.excess? with
    | none => return name
    | some reason => refuseAt (payload.span?.getD here) reason
  | _ => refuseAt here "wanted string or table"

/-- The entries, with strings for the settings that are names; it ends before a name that is badly
written, and tells what is wrong with it. -/
def resolveNames (settings : List (String × List String)) :
    Entries → List (String × Json) × Option Fault
  | [] => ([], none)
  | (key, place, node) :: rest =>
    let value : Reading Json :=
      match settings.lookup key with
      | some known => (node.name known place).map .string
      | none => .ok node.toJson
    match value with
    | .error fault => ([], some fault)
    | .ok v =>
      let (more, fault?) := resolveNames settings rest
      ((key, v) :: more, fault?)

end DesignMarkup.Toml
