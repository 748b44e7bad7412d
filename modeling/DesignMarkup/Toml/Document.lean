import DesignMarkup.Toml.Table
/-!
TOML documents: statements, each on lines of its own, that fill tables.
-/
namespace DesignMarkup.Toml

def isBareKeyChar (c : Char) : Bool := c.isAlphanum || c == '_' || c == '-'

def simpleKey : List Char → Reading (String × List Char)
  | '"' :: s => oneLine false s
  | '\'' :: s => oneLine true s
  | s =>
    let word := s.takeWhile isBareKeyChar
    if word.isEmpty then .tentative (fail s none)
    else .ok (String.ofList word, s.dropWhile isBareKeyChar)

/-- Keys around dots. A dot with no key behind it is left in the text. -/
def dottedKey : (fuel : Nat) → List Char → Reading (List Key × List Char)
  | 0, s => fail s none
  | n + 1, s => do
    let start := skipBlank s
    let (name, rest) ← simpleKey start
    let written := String.ofList (start.take (start.length - rest.length))
    let key : Key := { name, written, span := ⟨start.length, rest.length⟩ }
    let behind := skipBlank rest
    match behind with
    | '.' :: more =>
      match ← (dottedKey n more).optional with
      | some (keys, rest) => return (key :: keys, rest)
      | none => return ([key], behind)
    | _ => return ([key], behind)

/-- Arrays and inline tables are nested less deeply, and keys in dots have fewer parts. -/
def depthLimit : Nat := 80

def tooDeep : String := "recursion limit exceeded"

def keyPath (s : List Char) : Reading (KeyPath × List Char) := do
  let (keys, rest) ← (dottedKey (s.length + 1) s).within "key"
  match keys.getLast? with
  | some last =>
    if depthLimit ≤ keys.length then .tentative (refuse s tooDeep)
    else return (⟨keys.dropLast, last⟩, rest)
  | none => fail s "key"

def clashing {α : Type} (s : List Char) (result : Except Clash α) : Reading α :=
  match result with
  | .ok a => .ok a
  | .error clash => refuse s clash.message

def keyMarks : List String := ["`.`", "`=`"]

mutual

def value (depth : Nat) : (fuel : Nat) → List Char → Reading (Node × List Char)
  | 0, s => fail s none
  | n + 1, s =>
    let place (rest : List Char) : Span := ⟨s.length, rest.length⟩
    match s with
    | '[' :: body => do
      if depthLimit ≤ depth + 1 then refuse body tooDeep
      let (items, rest) ← arrayItems (depth + 1) n (skipLines body)
      return (.array items (place rest), rest)
    | '\x7b' :: body => do
      if depthLimit ≤ depth + 1 then refuse body tooDeep
      let (pairs, rest) ← inlinePairs (depth + 1) n body
      let add (t : Node) (pair : KeyPath × Node) : Except Clash Node :=
        addPair .inlinePair pair.1 none pair.2 t
      let node ← clashing body (pairs.foldlM add (.table .inline (some (place (rest.drop 1))) []))
      match rest with
      | '\x7d' :: rest => return (node, rest)
      | _ => fail rest "inline table" ["`\x7d`"]
    | _ => do
      let (v, rest) ← scalar s
      return (.scalar v (place rest), rest)

def arrayItems (depth : Nat) : (fuel : Nat) → List Char → Reading (List Node × List Char)
  | 0, s => fail s none
  | _ + 1, ']' :: s => .ok ([], s)
  | n + 1, s => do
    match ← (value depth n s).optional with
    | none => fail s "array" ["`]`"]
    | some (item, rest) =>
      match skipLines rest with
      | ',' :: more =>
        let (items, rest) ← arrayItems depth n (skipLines more)
        return (item :: items, rest)
      | ']' :: rest => return ([item], rest)
      | rest => fail rest "array" ["`]`"]

def inlinePairs (depth : Nat) : (fuel : Nat) → List Char →
    Reading (List (KeyPath × Node) × List Char)
  | 0, s => fail s none
  | n + 1, s => do
    match ← (keyPath s).optional with
    | none => return ([], skipBlank s)
    | some (key, '=' :: body) =>
      let (v, after) ← (value depth n (skipBlank body)).final
      match skipBlank after with
      | ',' :: more =>
        let (pairs, rest) ← inlinePairs depth n more
        if pairs.isEmpty then return ([(key, v)], ',' :: more)
        else return ((key, v) :: pairs, rest)
      | rest => return ([(key, v)], rest)
    | some (_, rest) => fail rest none keyMarks

end

inductive Statement where
  | pair (key : KeyPath) (value : Node)
  | header (span : Span) (key : KeyPath)
  /-- Opens a further table of an array. -/
  | item (span : Span) (key : KeyPath)

structure Builder where
  root : Node := .table .opened none []
  here : List Key := []

def Builder.add (b : Builder) : Statement → Except Clash Builder
  | .pair key v => do
    let table := b.here.map Key.name
    let change (t : Node) : Except Clash Node :=
      addPair .pair key (some table) v ((v.span?.map Span.stop).elim t (extendTo · t))
    return { b with root := ← alter .header change [] b.here b.root }
  | .header span key => do return ⟨← openTable span key b.root, key.way ++ [key.last]⟩
  | .item span key => do return ⟨← pushTable span key b.root, key.way ++ [key.last]⟩

def lineEnd (expected : List String) (s : List Char) : Reading (List Char) :=
  let rest := skipComment s
  if rest.isEmpty then .ok []
  else
    match afterNewline? rest with
    | some next => .ok next
    | none => fail rest none expected

def lineMarks : List String := ["newline", "`#`"]

def header (closing : String) (s : List Char) : Reading (KeyPath × List Char × List Char) := do
  let (key, rest) ← keyPath s
  if closing.toList.isPrefixOf rest then
    let after := rest.drop closing.length
    return (key, after, ← lineEnd lineMarks after)
  else fail rest none ["`.`", Json.ticked closing]

def statement (s : List Char) : Reading (Statement × List Char) := do
  match s with
  | ['['] => fail s none
  | '[' :: '[' :: body =>
    let (key, after, next) ← header "]]" body
    return (.item ⟨s.length, after.length⟩ key, next)
  | '[' :: body =>
    let (key, after, next) ← header "]" body
    return (.header ⟨s.length, after.length⟩ key, next)
  | _ =>
    let (key, rest) ← keyPath s
    match rest with
    | '=' :: body =>
      let (v, after) ← value 0 (2 * body.length + 2) (skipBlank body)
      return (.pair key v, ← lineEnd lineMarks after)
    | _ => fail rest none keyMarks

def Builder.read (b : Builder) (s : List Char) : Reading (Builder × List Char) :=
  let result : Reading (Builder × List Char) := do
    let (first, next) ← statement s
    return (← clashing s (b.add first), next)
  if s.head? = some '[' then result.within "table header" else result

def statements (b : Builder) : (fuel : Nat) → List Char → Reading Builder
  | 0, s => fail s none
  | n + 1, s => do
    match skipBlank s with
    | [] => return b
    | c :: rest =>
      if c = '#' || c = '\n' || c = '\r' then statements b n (← lineEnd [] (c :: rest))
      else
        let (b, next) ← b.read (c :: rest)
        statements b n next

def document (text : List Char) : Reading Node := do
  let body := match text with
    | '\ufeff' :: rest => rest
    | _ => text
  return (← statements {} (body.length + 1) body).root

end DesignMarkup.Toml
