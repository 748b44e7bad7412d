/-!
Punycode: text beyond ASCII as letters, digits and hyphens.
-/
namespace DesignMarkup.Url.Punycode

def digitChar (d : Nat) : Char := Char.ofNat (if d < 26 then 97 + d else 22 + d)

def digitValue? (c : Char) : Option Nat :=
  if c.isDigit then some (c.toNat - 22)
  else if c.isAlpha then some (c.toLower.toNat - 97)
  else none

def threshold (k bias : Nat) : Nat := if k ≤ bias then 1 else if bias + 26 ≤ k then 26 else k - bias

theorem threshold_pos (k bias : Nat) : 1 ≤ threshold k bias := by
  unfold threshold
  split
  · omega
  · split <;> omega

def adaptLoop (delta k : Nat) : Nat × Nat :=
  if 455 < delta then adaptLoop (delta / 35) (k + 36) else (delta, k)
termination_by delta
decreasing_by omega

def adapt (delta count : Nat) (first : Bool) : Nat :=
  let start := if first then delta / 700 else delta / 2
  let (rest, k) := adaptLoop (start + start / count) 0
  k + 36 * rest / (rest + 38)

/-- A gap in digits of base 36 with sliding thresholds. -/
def gapDigits (bias k gap : Nat) : List Char :=
  let t := threshold k bias
  if gap < t then [digitChar gap]
  else digitChar (t + (gap - t) % (36 - t)) :: gapDigits bias (k + 36) ((gap - t) / (36 - t))
termination_by gap
decreasing_by
  have := threshold_pos k bias
  exact Nat.lt_of_le_of_lt (Nat.div_le_self _ _) (by omega)

structure Encoding where
  out : List Char
  gap : Nat
  bias : Nat
  written : Nat

def Encoding.pass (basic code : Nat) (e : Encoding) (c : Char) : Encoding :=
  if c.toNat < code then { e with gap := e.gap + 1 }
  else if c.toNat = code then
    { out := e.out ++ gapDigits e.bias 36 e.gap, gap := 0,
      bias := adapt e.gap (e.written + 1) (e.written == basic), written := e.written + 1 }
  else e

def Encoding.codes (input : List Char) (basic : Nat) : List Nat → Nat → Encoding → Encoding
  | [], _, e => e
  | code :: rest, next, e =>
    let e := { e with gap := e.gap + (code - next) * (e.written + 1) }
    let e := input.foldl (Encoding.pass basic code) e
    codes input basic rest (code + 1) { e with gap := e.gap + 1 }

def encode (input : List Char) : List Char :=
  let basic := input.filter fun c => c.toNat < 128
  let codes := ((input.filter fun c => 128 ≤ c.toNat).map Char.toNat).mergeSort.eraseDups
  let head := if basic.isEmpty then [] else basic ++ ['-']
  (Encoding.codes input basic.length codes 128 ⟨head, 0, 72, basic.length⟩).out

def readGap (bias : Nat) : (weight k : Nat) → List Char → Option (Nat × List Char)
  | _, _, [] => none
  | weight, k, c :: s => do
    let d ← digitValue? c
    let t := threshold k bias
    if d < t then some (d * weight, s)
    else
      let (more, rest) ← readGap bias (weight * (36 - t)) (k + 36) s
      some (d * weight + more, rest)

def insertAt (i : Nat) (c : Char) (s : List Char) : List Char := s.take i ++ c :: s.drop i

def decodeGaps : (fuel : Nat) → (code i bias : Nat) → List Char → List Char → Option (List Char)
  | 0, _, _, _, _, _ => none
  | _ + 1, _, _, _, out, [] => some out
  | n + 1, code, i, bias, out, s => do
    let (gap, rest) ← readGap bias 1 36 s
    let size := out.length + 1
    let next := code + (i + gap) / size
    let place := (i + gap) % size
    if !next.isValidChar then none
    else
      decodeGaps n next (place + 1) (adapt gap size (i == 0))
        (insertAt place (Char.ofNat next) out) rest

/-- The part before the last hyphen stands for itself. -/
def decode (s : List Char) : Option (List Char) :=
  let tail := (s.reverse.takeWhile (· != '-')).reverse
  let head := s.take (s.length - tail.length - 1)
  if s.contains '-' ∧ head = [] then none else decodeGaps (s.length + 1) 128 0 72 head tail

end DesignMarkup.Url.Punycode
