import DesignMarkup.Json.Basic
import DesignMarkup.Json.Refusal
/-!
Reading records from JSON values. A `Shape` lists the fields of a record; it reads an object by key
and, for records that allow it, an array by position.

Of several bad fields one reports: in an object the one whose key comes first in the object's order,
and a bad field before a missing one; in an array the first by position; among missing fields the
first in the order of the shape.
-/
namespace DesignMarkup.Json

inductive Origin where
  | direct
  /-- A value held back while the fields around it were sorted out. -/
  | buffered
  /-- A value of a configuration file. -/
  | table
deriving DecidableEq, Repr

abbrev Decoder (α : Type) := Origin → Json → Except Refusal α

namespace Decode
variable {α β : Type}

def any : Decoder Json := fun _ v => .ok v

def bool : Decoder Bool := fun _ v =>
  match v with
  | .bool b => .ok b
  | _ => refuse (.wrongType v "a boolean")

def string : Decoder String := fun _ v =>
  match v with
  | .string s => .ok s
  | _ => refuse (.wrongType v "a string")

def float : Decoder Float := fun _ v =>
  match v with
  | .int n => .ok (Float.ofInt n)
  | .float x => .ok x
  | _ => refuse (.wrongType v "f64")

def integer (fits : Int → Bool) (kind : String) : Decoder Int := fun _ v =>
  match v with
  | .int n => if fits n then .ok n else refuse (.wrongValue v kind)
  | _ => refuse (.wrongType v kind)

def count32 : Decoder UInt32 := fun o v =>
  (integer (fitsUnsigned 32) "u32" o v).map fun n => UInt32.ofNat n.toNat

/-- Counts that are given beside a document, such as the depth of a rendering. -/
def count64 : Decoder Nat := fun o v => (integer (fitsUnsigned 64) "usize" o v).map Int.toNat

def int32 : Decoder Int32 := fun o v =>
  (integer (fitsSigned 32) "i32" o v).map Int32.ofInt

def nullable (decode : Decoder α) : Decoder (Option α) := fun o v =>
  match v with
  | .null => .ok none
  | _ => (decode o v).map some

def itemsFrom (decode : Decoder α) (o : Origin) : Nat → List Json → Except Refusal (List α)
  | _, [] => .ok []
  | i, v :: rest => do
    let a ← Refusal.under (.index i) (decode o v)
    return a :: (← itemsFrom decode o (i + 1) rest)

def list (decode : Decoder α) : Decoder (List α) := fun o v =>
  match v with
  | .array items => itemsFrom decode o 0 items
  | _ => refuse (.wrongType v "a sequence")

def entries (decode : Decoder α) (o : Origin) (fields : Dict Json) : Except Refusal (Dict α) :=
  fields.mapM fun (k, v) => do return (k, ← Refusal.under (.key k) (decode o v))

def dict (decode : Decoder α) : Decoder (Dict α) := fun o v =>
  match v with
  | .object fields => entries decode o fields
  | _ => refuse (.wrongType v "a map")

/-- A name without a payload may be written as an object whose only value is empty. -/
def emptyPayload (o : Origin) (payload : Json) : Except Refusal Unit :=
  match o, payload with
  | _, .null => .ok ()
  | .buffered, .object [] => .ok ()
  | _, _ => refuse (.wrongType payload "unit")

def nameOf (known : List (String × α)) (name : String) : Except Refusal α :=
  match known.lookup name with
  | some a => .ok a
  | none => refuse (.unknownName name (known.map Prod.fst))

def keyword (known : List (String × α)) : Decoder α := fun o v =>
  match o, v with
  | _, .string name => nameOf known name
  | _, .object [(name, payload)] => do
    let a ← nameOf known name
    emptyPayload o payload
    return a
  | _, .object _ => refuse (.wrongValue v "map with a single key")
  | _, _ => refuse (.wrongType v "string or map")

end Decode

inductive Record where
  | keyed (fields : Dict Json)
  | positional (items : List Json)

/-- Without a refusal, the array ended before the field. -/
structure Fault where
  rank : Nat
  refusal : Option Refusal

def both {α β : Type} : Except Fault (α → β) → Except Fault α → Except Fault β
  | .ok f, .ok a => .ok (f a)
  | .ok _, .error e => .error e
  | .error e, .ok _ => .error e
  | .error e, .error e' => .error (if e.rank ≤ e'.rank then e else e')

/-- So many fields with their keys; `check` is given the number of fields before them. -/
structure Shape (α : Type) where
  size : Nat
  keys : List String
  check : Origin → Nat → Record → Except Fault α

namespace Shape
variable {α β : Type}

instance : Applicative Shape where
  pure a := ⟨0, [], fun _ _ _ => .ok a⟩
  seq f a :=
    ⟨f.size + (a ()).size, f.keys ++ (a ()).keys, fun o i r =>
      both (f.check o i r) ((a ()).check o (i + f.size) r)⟩

def ranked (rank : Nat) : Except Refusal α → Except Fault α
  | .ok a => .ok a
  | .error e => .error ⟨rank, some e⟩

/-- `absent` stands in for a key that is not there, `short` for a position beyond the end. -/
def field (key : String) (decode : Decoder α) (absent short : Option α) : Shape α where
  size := 1
  keys := [key]
  check o i r :=
    match r with
    | .keyed fields =>
      match fields.get? key, absent with
      | some v, _ => ranked (fields.keys.idxOf key) (Refusal.under (.key key) (decode o v))
      | none, some a => .ok a
      | none, none => .error ⟨fields.length + i, some ⟨.missing key, []⟩⟩
    | .positional items =>
      match items[i]?, short with
      | some v, _ => ranked i (Refusal.under (.index i) (decode o v))
      | none, some a => .ok a
      | none, none => .error ⟨i, none⟩

def required (key : String) (decode : Decoder α) : Shape α := field key decode none none

def optional (key : String) (decode : Decoder α) : Shape (Option α) :=
  field key (Decode.nullable decode) (some none) none

def optionalLast (key : String) (decode : Decoder α) : Shape (Option α) :=
  field key (Decode.nullable decode) (some none) (some none)

def withDefault (key : String) (default : α) (decode : Decoder α) : Shape α :=
  field key decode (some default) (some default)

def elements (n : Nat) : String := toString n ++ (if n = 1 then " element" else " elements")

def settle (expected : String) (shape : Shape α) : Except Fault α → Except Refusal α
  | .ok a => .ok a
  | .error ⟨_, some e⟩ => .error e
  | .error ⟨i, none⟩ => refuse (.wrongLength i (expected ++ " with " ++ elements shape.size))

/-- The fields of a record that is written as an object, or spread over an object with others. -/
def decodeKeyed (expected : String) (shape : Shape α) (o : Origin) (fields : Dict Json) :
    Except Refusal α :=
  settle expected shape (shape.check o 0 (.keyed fields))

def decode (name : String) (shape : Shape α) : Decoder α := fun o v =>
  let expected := "struct " ++ name
  match v with
  | .object fields => decodeKeyed expected shape o fields
  | .array items => do
    let a ← settle expected shape (shape.check o 0 (.positional items))
    if items.length ≤ shape.size ∨ o = .table then .ok a
    else refuse (.wrongLength items.length
      (if o = .buffered then elements shape.size ++ " in sequence" else "fewer elements in array"))
  | _ => refuse (.wrongType v expected)

end Shape
end DesignMarkup.Json

namespace DesignMarkup

/-- A type whose values have fixed names, in the order in which a refusal lists them. One table serves
reading and writing. -/
class Keyword (α : Type) where
  names : List (String × α)

namespace Keyword
variable {α : Type} [Keyword α]

def text [DecidableEq α] (a : α) : String :=
  (((names : List (String × α)).find? fun entry => entry.2 = a).map Prod.fst).getD ""

def ofText? (s : String) : Option α := names.lookup s

def encode [DecidableEq α] (a : α) : Json := .string (text a)

def decode : Json.Decoder α := Json.Decode.keyword names

end Keyword
end DesignMarkup
