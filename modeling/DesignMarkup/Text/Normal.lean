import DesignMarkup.Text.Decomposition
import DesignMarkup.Text.Mark
/-!
The composed normal form of a text: characters are decomposed, the marks after each character are
put in the order of their classes, and what can be composed is composed.
-/
namespace DesignMarkup.Text

/-- The letters of a syllable of Hangul: a leading consonant, a vowel and perhaps a final one. -/
def hangulLetters (n : Nat) : List Nat :=
  let s := n - 0xac00
  let tail := if s % 28 = 0 then [] else [0x11a7 + s % 28]
  (0x1100 + s / 588) :: (0x1161 + s % 588 / 28) :: tail

def decompose (n : Nat) : List Nat :=
  if 0xac00 ≤ n ∧ n ≤ 0xd7a3 then hangulLetters n else (decompositions.get? n).getD [n]

/-- Appends to a sequence that has its last code point first. A mark passes those of higher classes.
-/
def placeMark (n : Nat) : List Nat → List Nat
  | [] => [n]
  | m :: before =>
    if combiningClass n ≠ 0 ∧ combiningClass n < combiningClass m then m :: placeMark n before
    else n :: m :: before

def orderMarks (codes : List Nat) : List Nat := (codes.foldl (fun s n => placeMark n s) []).reverse

def composeHangul? (a b : Nat) : Option Nat :=
  if 0x1100 ≤ a ∧ a ≤ 0x1112 ∧ 0x1161 ≤ b ∧ b ≤ 0x1175 then
    some (0xac00 + ((a - 0x1100) * 21 + (b - 0x1161)) * 28)
  else if 0xac00 ≤ a ∧ a ≤ 0xd7a3 ∧ (a - 0xac00) % 28 = 0 ∧ 0x11a8 ≤ b ∧ b ≤ 0x11c2 then
    some (a + (b - 0x11a7))
  else none

def compose? (a b : Nat) : Option Nat :=
  match composeHangul? a b with
  | some n => some n
  | none =>
    let whole := (decompositions.get? a).getD [a] ++ [b]
    (decompositions.find? fun r =>
      r.image == whole && !compositionExclusions.covers r.first).map CodeRun.first

/-- A sequence in composition, the last code point first: a starter with the marks behind it that
did not combine with it, and all before them. -/
structure Composition where
  before : List Nat
  starter : Option Nat
  marks : List Nat

namespace Composition

def toList (c : Composition) : List Nat := c.marks ++ c.starter.toList ++ c.before

def isOpenTo (c : Composition) (n : Nat) : Bool :=
  match c.marks with
  | [] => true
  | m :: _ => combiningClass m < combiningClass n

def push (c : Composition) (n : Nat) : Composition :=
  match c.starter.bind (compose? · n), c.isOpenTo n with
  | some whole, true => { c with starter := some whole }
  | _, _ =>
    if combiningClass n = 0 then ⟨c.toList, some n, []⟩ else { c with marks := n :: c.marks }

end Composition

def composeAll (codes : List Nat) : List Nat :=
  (codes.foldl Composition.push ⟨[], none, []⟩).toList.reverse

def normalize (s : List Char) : List Char :=
  (composeAll (orderMarks (s.flatMap fun c => decompose c.toNat))).map Char.ofNat

end DesignMarkup.Text
