import DesignMarkup.Text.Basic
/-!
Maps from code points to sequences of code points, written as words of hexadecimal numbers. A word
is the image of the code point after that of the word before it, or of the one that it names before
a colon. `41+300` is an image of two, `-` an empty one, and `41*1A` gives 26 code points in a row
the images from `41` on.
-/
namespace DesignMarkup.Text

structure CodeRun where
  first : Nat
  count : Nat
  image : List Nat

def CodeRun.covers (r : CodeRun) (n : Nat) : Bool := r.first ≤ n && n < r.first + r.count

def CodeRun.imageOf (r : CodeRun) (n : Nat) : List Nat := r.image.map (· + (n - r.first))

def codeNumber (s : List Char) : Nat := s.foldl (fun n c => n * 16 + (hexDigit? c).getD 0) 0

/-- `next` is the code point that the word is about if it names none. -/
def CodeRun.ofWord (next : Nat) (word : List Char) : CodeRun :=
  let (first, body) := match splitBy (· == ':') word with
    | [source, body] => (codeNumber source, body)
    | _ => (next, word)
  let (image, count) := match splitBy (· == '*') body with
    | [image, count] => (image, codeNumber count)
    | _ => (body, 1)
  ⟨first, count, if image = ['-'] then [] else (splitBy (· == '+') image).map codeNumber⟩

abbrev CodeTable := List CodeRun

namespace CodeTable

def get? (t : CodeTable) (n : Nat) : Option (List Nat) :=
  (t.find? (·.covers n)).map (·.imageOf n)

def ofWords : (next : Nat) → List (List Char) → CodeTable
  | _, [] => []
  | next, word :: rest =>
    let run := CodeRun.ofWord next word
    run :: ofWords (run.first + run.count) rest

def ofText (text : String) : CodeTable :=
  ofWords 0 ((splitBy (fun c => c == ' ' || c == '\n') text.toList).filter (· ≠ []))

end CodeTable
end DesignMarkup.Text
