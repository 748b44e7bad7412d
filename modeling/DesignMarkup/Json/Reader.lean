import DesignMarkup.Json.Basic
import DesignMarkup.Text.Basic
/-!
Reading JSON text. A refusal names its cause and the place where reading stopped, as a line and a
column in bytes. Of several entries with one key the last counts; nesting is limited to 127 levels.

Decimals are read the quick way: up to 64 bits of digits, then one multiplication or division by a
power of ten, so the last place of a long decimal may be off.
-/
namespace DesignMarkup.Json

inductive SyntaxFault where
  | endInValue
  | endInList
  | endInObject
  | endInString
  | colonExpected
  | listEndExpected
  | objectEndExpected
  | wordExpected
  | valueExpected
  | badEscape
  | badNumber
  | outOfRange
  | controlCharacter
  | keyExpected
  | loneSurrogate
  | surrogateCutOff
  | trailingComma
  | trailingCharacters
  | tooDeep
deriving DecidableEq, Repr

def SyntaxFault.message : SyntaxFault → String
  | endInValue => "EOF while parsing a value"
  | endInList => "EOF while parsing a list"
  | endInObject => "EOF while parsing an object"
  | endInString => "EOF while parsing a string"
  | colonExpected => "expected `:`"
  | listEndExpected => "expected `,` or `]`"
  | objectEndExpected => "expected `,` or `\x7d`"
  | wordExpected => "expected ident"
  | valueExpected => "expected value"
  | badEscape => "invalid escape"
  | badNumber => "invalid number"
  | outOfRange => "number out of range"
  | controlCharacter => "control character (\\u0000-\\u001F) found while parsing a string"
  | keyExpected => "key must be a string"
  | loneSurrogate => "lone leading surrogate in hex escape"
  | surrogateCutOff => "unexpected end of hex escape"
  | trailingComma => "trailing comma"
  | trailingCharacters => "trailing characters"
  | tooDeep => "recursion limit exceeded"

/-- Where reading stopped: `beyond` bytes into what was left. -/
structure Stop where
  fault : SyntaxFault
  rest : List Char
  beyond : Nat

abbrev Reading := Except Stop

def skipBlank (s : List Char) : List Char :=
  s.dropWhile fun c => c == ' ' || c == '\n' || c == '\t' || c == '\r'

def word (value : Json) : List Char → List Char → Reading (Json × List Char)
  | [], s => .ok (value, s)
  | _ :: _, [] => .error ⟨.endInValue, [], 0⟩
  | c :: more, d :: s => if c = d then word value more s else .error ⟨.wordExpected, d :: s, 1⟩

def digitValue (c : Char) : Nat := c.toNat - '0'.toNat

/-- Appends digits to a number of 64 bits while they fit, and counts them. -/
def absorb (value count : Nat) : List Char → Nat × Nat
  | [] => (value, count)
  | d :: rest =>
    let next := value * 10 + digitValue d
    if next < wordCount 64 then absorb next (count + 1) rest else (value, count)

def powerOfTen (n : Nat) : Float := Float.ofScientific 1 false n

/-- `significand * 10 ^ exponent`; powers beyond the largest are applied in two steps. -/
def scale (significand : Nat) (exponent : Int) : Float :=
  let f := Float.ofNat significand
  let n := exponent.natAbs
  if 0 ≤ exponent then
    if n ≤ 308 then f * powerOfTen n else if significand = 0 then 0.0 else 1.0 / 0.0
  else if n ≤ 308 then f / powerOfTen n
  else if n ≤ 616 then f / powerOfTen 308 / powerOfTen (n - 308)
  else 0.0

def signed (negative : Bool) (x : Float) : Float := if negative then -x else x

def finiteNumber (negative : Bool) (significand : Nat) (exponent : Int) (s : List Char) :
    Reading (Json × List Char) :=
  let x := scale significand exponent
  if x.isInf then .error ⟨.outOfRange, s, 0⟩ else .ok (.float (signed negative x), s)

def absorbExponent (value : Nat) : List Char → Except (List Char) (Nat × List Char)
  | [] => .ok (value, [])
  | d :: rest =>
    if d.isDigit then
      let next := value * 10 + digitValue d
      if next < wordCount 31 then absorbExponent next rest else .error rest
    else .ok (value, d :: rest)

def exponentDigits (negative below : Bool) (significand : Nat) (exponent : Int) :
    List Char → Reading (Json × List Char)
  | [] => .error ⟨.endInValue, [], 0⟩
  | d :: rest =>
    if d.isDigit then
      match absorbExponent (digitValue d) rest with
      | .ok (e, s) =>
        finiteNumber negative significand (if below then exponent - e else exponent + e) s
      | .error s =>
        if significand ≠ 0 ∧ !below then .error ⟨.outOfRange, s, 0⟩
        else .ok (.float (signed negative 0.0), s.dropWhile Char.isDigit)
    else .error ⟨.badNumber, d :: rest, 1⟩

def exponentPart (negative : Bool) (significand : Nat) (exponent : Int) :
    List Char → Reading (Json × List Char)
  | '+' :: rest => exponentDigits negative false significand exponent rest
  | '-' :: rest => exponentDigits negative true significand exponent rest
  | s => exponentDigits negative false significand exponent s

def afterDigits (negative : Bool) (significand : Nat) (exponent : Int) :
    List Char → Reading (Json × List Char)
  | 'e' :: rest => exponentPart negative significand exponent rest
  | 'E' :: rest => exponentPart negative significand exponent rest
  | s => finiteNumber negative significand exponent s

def fraction (negative : Bool) (significand dropped : Nat) (s : List Char) :
    Reading (Json × List Char) :=
  let digits := s.takeWhile Char.isDigit
  let rest := s.dropWhile Char.isDigit
  match digits, rest with
  | [], [] => .error ⟨.endInValue, [], 0⟩
  | [], _ => .error ⟨.badNumber, rest, 1⟩
  | _, _ =>
    let (value, count) := absorb significand 0 digits
    afterDigits negative value (dropped - count) rest

/-- Minus zero, and what lies below the whole numbers of 64 bits, is a floating-point number. -/
def wholeNumber (negative : Bool) (n : Nat) : Json :=
  if !negative then .int n
  else if n = 0 ∨ wordCount 63 < n then .float (-(Float.ofNat n))
  else .int (-n)

def numberText (negative : Bool) : List Char → Reading (Json × List Char)
  | [] => .error ⟨.endInValue, [], 0⟩
  | c :: s =>
    let digits := if c = '0' then [c] else (c :: s).takeWhile Char.isDigit
    let rest := if c = '0' then s else (c :: s).dropWhile Char.isDigit
    if !c.isDigit then .error ⟨.badNumber, c :: s, 1⟩
    else if c = '0' ∧ (s.head?.any Char.isDigit) then .error ⟨.badNumber, s, 1⟩
    else
      let (value, count) := absorb 0 0 digits
      let dropped := digits.length - count
      match rest with
      | '.' :: more => fraction negative value dropped more
      | 'e' :: more => exponentPart negative value dropped more
      | 'E' :: more => exponentPart negative value dropped more
      | _ =>
        if dropped = 0 then .ok (wholeNumber negative value, rest)
        else finiteNumber negative value dropped rest

def hexUnit (s : List Char) : Reading (Nat × List Char) :=
  match s.take 4 |>.mapM Text.hexDigit? with
  | some [a, b, c, d] => .ok (((a * 16 + b) * 16 + c) * 16 + d, s.drop 4)
  | _ => if Text.byteCount s < 4 then .error ⟨.endInString, [], 0⟩ else .error ⟨.badEscape, s, 4⟩

def lowSurrogate (high : Nat) : List Char → Reading (Char × List Char)
  | [] => .error ⟨.endInString, [], 0⟩
  | ['\\'] => .error ⟨.endInString, [], 0⟩
  | '\\' :: 'u' :: s => do
    let (low, rest) ← hexUnit s
    if low < 0xdc00 ∨ 0xdfff < low then .error ⟨.loneSurrogate, rest, 0⟩
    else .ok (Char.ofNat ((high - 0xd800) * 1024 + (low - 0xdc00) + 0x10000), rest)
  | '\\' :: s => .error ⟨.surrogateCutOff, s, 1⟩
  | s => .error ⟨.surrogateCutOff, s, 1⟩

def unicodeEscape (s : List Char) : Reading (Char × List Char) := do
  let (unit, rest) ← hexUnit s
  if 0xdc00 ≤ unit ∧ unit ≤ 0xdfff then .error ⟨.loneSurrogate, rest, 0⟩
  else if 0xd800 ≤ unit ∧ unit ≤ 0xdbff then lowSurrogate unit rest
  else .ok (Char.ofNat unit, rest)

def escape : List Char → Reading (Char × List Char)
  | [] => .error ⟨.endInString, [], 0⟩
  | 'u' :: s => unicodeEscape s
  | '"' :: s => .ok ('"', s)
  | '\\' :: s => .ok ('\\', s)
  | '/' :: s => .ok ('/', s)
  | 'b' :: s => .ok ('\x08', s)
  | 'f' :: s => .ok ('\x0c', s)
  | 'n' :: s => .ok ('\n', s)
  | 'r' :: s => .ok ('\r', s)
  | 't' :: s => .ok ('\t', s)
  | s => .error ⟨.badEscape, s, 1⟩

def stringBody : (fuel : Nat) → List Char → List Char → Reading (String × List Char)
  | 0, _, s => .error ⟨.endInString, s, 0⟩
  | _ + 1, _, [] => .error ⟨.endInString, [], 0⟩
  | n + 1, read, c :: s =>
    if c = '"' then .ok (String.ofList read.reverse, s)
    else if c = '\\' then do
      let (d, rest) ← escape s
      stringBody n (d :: read) rest
    else if c.toNat < 32 then .error ⟨.controlCharacter, c :: s, 1⟩
    else stringBody n (c :: read) s

mutual

def value : (fuel depth : Nat) → List Char → Reading (Json × List Char)
  | 0, _, s => .error ⟨.valueExpected, s, 0⟩
  | n + 1, depth, s =>
    match skipBlank s with
    | [] => .error ⟨.endInValue, [], 0⟩
    | 'n' :: rest => word .null "ull".toList rest
    | 't' :: rest => word (.bool true) "rue".toList rest
    | 'f' :: rest => word (.bool false) "alse".toList rest
    | '-' :: rest => numberText true rest
    | '"' :: rest => do
      let (text, more) ← stringBody (rest.length + 1) [] rest
      .ok (.string text, more)
    | '[' :: rest =>
      match depth, skipBlank rest with
      | 0, _ => .error ⟨.tooDeep, '[' :: rest, 1⟩
      | _ + 1, [] => .error ⟨.endInList, [], 0⟩
      | _ + 1, ']' :: more => .ok (.array [], more)
      | d + 1, more => items n d [] more
    | '\x7b' :: rest =>
      match depth, skipBlank rest with
      | 0, _ => .error ⟨.tooDeep, '\x7b' :: rest, 1⟩
      | _ + 1, [] => .error ⟨.endInObject, [], 0⟩
      | _ + 1, '\x7d' :: more => .ok (.object [], more)
      | d + 1, '"' :: more => entries n d [] more
      | _ + 1, more => .error ⟨.keyExpected, more, 1⟩
    | c :: rest =>
      if c.isDigit then numberText false (c :: rest) else .error ⟨.valueExpected, c :: rest, 1⟩

def items : (fuel depth : Nat) → List Json → List Char → Reading (Json × List Char)
  | 0, _, _, s => .error ⟨.valueExpected, s, 0⟩
  | n + 1, depth, read, s => do
    let (v, rest) ← value n depth s
    match skipBlank rest with
    | [] => .error ⟨.endInList, [], 0⟩
    | ']' :: more => .ok (.array (v :: read).reverse, more)
    | ',' :: more =>
      match skipBlank more with
      | [] => .error ⟨.endInValue, [], 0⟩
      | ']' :: last => .error ⟨.trailingComma, ']' :: last, 1⟩
      | next => items n depth (v :: read) next
    | more => .error ⟨.listEndExpected, more, 1⟩

def entries : (fuel depth : Nat) → Dict Json → List Char → Reading (Json × List Char)
  | 0, _, _, s => .error ⟨.valueExpected, s, 0⟩
  | n + 1, depth, read, s => do
    let (key, afterKey) ← stringBody (s.length + 1) [] s
    match skipBlank afterKey with
    | [] => .error ⟨.endInObject, [], 0⟩
    | ':' :: afterColon =>
      let (v, rest) ← value n depth afterColon
      match skipBlank rest with
      | [] => .error ⟨.endInObject, [], 0⟩
      | '\x7d' :: more => .ok (.object (Dict.insert read key v), more)
      | ',' :: more =>
        match skipBlank more with
        | [] => .error ⟨.endInValue, [], 0⟩
        | '"' :: next => entries n depth (Dict.insert read key v) next
        | '\x7d' :: last => .error ⟨.trailingComma, '\x7d' :: last, 1⟩
        | last => .error ⟨.keyExpected, last, 1⟩
      | more => .error ⟨.objectEndExpected, more, 1⟩
    | more => .error ⟨.colonExpected, more, 1⟩

end

structure SyntaxError where
  fault : SyntaxFault
  line : Nat
  column : Nat
deriving DecidableEq, Repr

def SyntaxError.message (e : SyntaxError) : String :=
  e.fault.message ++ " at line " ++ toString e.line ++ " column " ++ toString e.column

/-- The place after `offset` bytes; a line end is the last byte of its line. -/
def locate (bytes : List UInt8) (offset : Nat) : Nat × Nat :=
  let passed := bytes.take offset
  (passed.count 10 + 1, (passed.reverse.takeWhile (· != 10)).length)

def Stop.toError (text : String) (stop : Stop) : SyntaxError :=
  let bytes := text.toUTF8.toList
  let (line, column) := locate bytes (bytes.length - Text.byteCount stop.rest + stop.beyond)
  ⟨stop.fault, line, column⟩

def document (s : List Char) : Except Stop Json := do
  let (v, rest) ← value (2 * s.length + 2) 127 s
  match skipBlank rest with
  | [] => .ok v
  | more => .error ⟨.trailingCharacters, more, 1⟩

def read (text : String) : Except SyntaxError Json :=
  match document text.toList with
  | .ok v => .ok v
  | .error stop => .error (stop.toError text)

end DesignMarkup.Json
