import DesignMarkup.Json.Refusal
import DesignMarkup.Toml.Scalar
/-!
The tables of a TOML document while it is read. A table may be opened once by a header, and one that
only lies on the way to another may be opened later; tables made by dotted keys grow by dotted keys
only; inline tables are closed.
-/
namespace DesignMarkup.Toml

inductive TableKind where
  /-- Opened by a header, or the whole document. -/
  | opened
  /-- On the way to a table that was opened. -/
  | implied
  | dotted
  | inline
deriving DecidableEq, Repr

/-- Entries are in the order of the document, with the places of their keys. -/
inductive Node where
  | scalar (value : Json) (span : Span)
  | array (items : List Node) (span : Span)
  | table (kind : TableKind) (span : Option Span) (entries : List (String × Span × Node))
  /-- An array that headers fill. -/
  | tables (items : List Node)

inductive Clash where
  | duplicate (key : String) (table : Option (List String))
  | noTable (path : List String) (type : String)
deriving DecidableEq, Repr

def dotted (path : List String) : String := ".".intercalate path

def Clash.message : Clash → String
  | duplicate key none => "duplicate key " ++ Json.ticked key
  | duplicate key (some []) => "duplicate key " ++ Json.ticked key ++ " in document root"
  | duplicate key (some path) =>
    "duplicate key " ++ Json.ticked key ++ " in table " ++ Json.ticked (dotted path)
  | noTable path type =>
    "dotted key " ++ Json.ticked (dotted path) ++ " attempted to extend non-table type (" ++
      type ++ ")"

def scalarType : Json → String
  | .string _ => "string"
  | .int _ => "integer"
  | .float _ => "float"
  | .bool _ => "boolean"
  | _ => "datetime"

def Node.type : Node → String
  | .scalar value _ => scalarType value
  | .array _ _ => "array"
  | .table .inline _ _ => "inline table"
  | .table _ _ _ => "table"
  | .tables _ => "array of tables"

/-- What leads to a table: the keys of a header, or those of a pair in the document or within an
inline table. -/
inductive Route where
  | header
  | pair
  | inlinePair
deriving DecidableEq, Repr

/-- Dotted keys lead only through tables that no header opened. -/
def Route.clash? (route : Route) (path : List String) (key : String) : TableKind → Option Clash
  | .opened => if route = .header then none else some (.duplicate key none)
  | .inline =>
    if route = .inlinePair then some (.duplicate key none)
    else some (.noTable (path ++ [key]) "inline table")
  | .implied => none
  | .dotted => none

structure Key where
  name : String
  written : String
  span : Span
deriving DecidableEq, Repr

abbrev Entries := List (String × Span × Node)

def Entries.get? (entries : Entries) (name : String) : Option Node :=
  (entries.lookup name).map Prod.snd

def Entries.set (entries : Entries) (key : Key) (node : Node) : Entries :=
  if (entries.get? key.name).isSome then
    entries.map fun entry => if entry.1 = key.name then (key.name, entry.2.1, node) else entry
  else entries ++ [(key.name, key.span, node)]

/-- Changes the table that the keys lead to; tables on the way are made where there are none. The
path is the one already taken. -/
def alter (route : Route) (change : Node → Except Clash Node) (path : List String) :
    List Key → Node → Except Clash Node
  | [], t => change t
  | key :: keys, .table kind place entries => do
    let below := alter route change (path ++ [key.name]) keys
    let node ← match Entries.get? entries key.name with
      | none => below (.table (if route = .header then .implied else .dotted) none [])
      | some (.table inner p es) =>
        match route.clash? path key.name inner with
        | some clash => .error clash
        | none => below (.table inner p es)
      | some (.tables items) =>
        match items.getLast? with
        | some last => pure (.tables (items.dropLast ++ [← below last]))
        | none => .error (.duplicate key.name none)
      | some node => .error (.noTable (path ++ [key.name]) node.type)
    return .table kind place (Entries.set entries key node)
  | key :: _, node => .error (.noTable (path ++ [key.name]) node.type)

/-- A table that a header opened takes in the place of its entries. -/
def extendTo (stop : Nat) : Node → Node
  | .table kind place entries => .table kind (place.map fun p => ⟨p.start, stop⟩) entries
  | node => node

def addEntry (byDots : Bool) (key : Key) (table : Option (List String)) (value : Node) :
    Node → Except Clash Node
  | .table kind place entries =>
    if (kind == .dotted) != byDots then .error (.duplicate key.name none)
    else if (Entries.get? entries key.name).isSome then .error (.duplicate key.name table)
    else .ok (.table kind place (Entries.set entries key value))
  | node => .error (.noTable [key.name] node.type)

structure KeyPath where
  way : List Key
  last : Key
deriving DecidableEq, Repr

def KeyPath.wayNames (k : KeyPath) : List String := k.way.map Key.name

def addPair (route : Route) (key : KeyPath) (table : Option (List String)) (value : Node) :
    Node → Except Clash Node :=
  alter route (addEntry (!key.way.isEmpty) key.last table value) [] key.way

/-- Opens the table under a key, with the entries that it has from being on the way to others. -/
def openTable (span : Span) (key : KeyPath) : Node → Except Clash Node :=
  alter .header change [] key.way
where
  change : Node → Except Clash Node
    | .table kind place entries =>
      let opened (inner : Entries) : Except Clash Node :=
        .ok (.table kind place (Entries.set (entries.filter (·.1 != key.last.name)) key.last
          (.table .opened (some span) inner)))
      match Entries.get? entries key.last.name with
      | none => opened []
      | some (.table .implied _ inner) => opened inner
      | some _ => .error (.duplicate key.last.written (some key.wayNames))
    | node => .error (.noTable key.wayNames node.type)

def pushTable (span : Span) (key : KeyPath) : Node → Except Clash Node :=
  alter .header change [] key.way
where
  change : Node → Except Clash Node
    | .table kind place entries =>
      let holding (items : List Node) : Except Clash Node :=
        .ok (.table kind place
          (Entries.set entries key.last (.tables (items ++ [.table .opened (some span) []]))))
      match Entries.get? entries key.last.name with
      | none => holding []
      | some (.tables items) => holding items
      | some _ => .error (.duplicate key.last.written (some key.wayNames))
    | node => .error (.noTable key.wayNames node.type)

mutual

def Node.toJson : Node → Json
  | .scalar value _ => value
  | .array items _ => .array (itemsToJson items)
  | .table _ _ entries => .object (entriesToJson entries)
  | .tables items => .array (itemsToJson items)

def itemsToJson : List Node → List Json
  | [] => []
  | node :: rest => node.toJson :: itemsToJson rest

def entriesToJson : List (String × Span × Node) → List (String × Json)
  | [] => []
  | (name, _, node) :: rest => (name, node.toJson) :: entriesToJson rest

end

def spanOf? (tables : List Node) : Option Span := do
  let spans := tables.filterMap fun
    | .table _ span _ => span
    | _ => none
  return ⟨(← spans.head?).start, (← spans.getLast?).stop⟩

def Node.entries : Node → Entries
  | .table _ _ entries => entries
  | _ => []

def Node.span? : Node → Option Span
  | .scalar _ span => some span
  | .array _ span => some span
  | .table _ span _ => span
  | .tables items => spanOf? items

/-- The place of the innermost value on the path whose place is known, or of its key. -/
def Node.spanAt? : List Json.Place → Node → Option Span
  | .key k :: path, .table _ span entries =>
    ((entries.lookup k).bind fun (place, node) => (spanAt? path node).or (some place)).or span
  | .index i :: path, .array items span => ((items[i]?).bind (spanAt? path)).or (some span)
  | .index i :: path, .tables items =>
    ((items[i]?).bind (spanAt? path)).or (spanOf? items)
  | _, node => node.span?

end DesignMarkup.Toml
