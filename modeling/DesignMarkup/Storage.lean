import DesignMarkup.FilePath
/-!
What commands meet outside: paths as the system takes them, and files. A path is any bytes, which are
text most of the time. Every operation on files tells its outcome; a fault is text.
-/
namespace DesignMarkup

structure SystemPath where
  bytes : List UInt8
deriving DecidableEq, Repr

namespace SystemPath

def ofText (s : String) : SystemPath := ⟨s.toUTF8.data.toList⟩

instance : Coe String SystemPath := ⟨ofText⟩

def textOf? (bytes : List UInt8) : Option String := String.fromUTF8? ⟨bytes.toArray⟩

def text? (p : SystemPath) : Option String := textOf? p.bytes

/-- How many bytes follow the first one of a character, and the bounds of the next among them. -/
def behind? (first : UInt8) : Option (Nat × UInt8 × UInt8) :=
  if first < 0x80 then some (0, 0x80, 0xbf)
  else if first < 0xc2 then none
  else if first < 0xe0 then some (1, 0x80, 0xbf)
  else if first < 0xf0 then
    some (2, if first = 0xe0 then 0xa0 else 0x80, if first = 0xed then 0x9f else 0xbf)
  else if first < 0xf5 then
    some (3, if first = 0xf0 then 0x90 else 0x80, if first = 0xf4 then 0x8f else 0xbf)
  else none

def following : Nat → UInt8 → UInt8 → List UInt8 → List UInt8
  | 0, _, _, _ => []
  | _, _, _, [] => []
  | n + 1, low, high, b :: rest =>
    if low ≤ b ∧ b ≤ high then b :: following n 0x80 0xbf rest else []

def replacement : Char := '\ufffd'

def shownChars : List UInt8 → List Char
  | [] => []
  | first :: rest =>
    match behind? first with
    | none => replacement :: shownChars rest
    | some (n, low, high) =>
      let more := following n low high rest
      let c? := (textOf? (first :: more)).bind (·.toList.head?)
      c?.getD replacement :: shownChars (rest.drop more.length)
termination_by bytes => bytes.length
decreasing_by all_goals simp only [List.length_cons, List.length_drop]; omega

def shown (p : SystemPath) : String := p.text?.getD (String.ofList (shownChars p.bytes))

/-- Each byte as the character of its number. What divides a path are single bytes, and none of them
occurs within a longer character. -/
def bytewise (p : SystemPath) : String := String.ofList (p.bytes.map fun b => Char.ofNat b.toNat)

def ofBytewise (s : String) : SystemPath := ⟨s.toList.map fun c => UInt8.ofNat c.toNat⟩

def join (folder path : SystemPath) : SystemPath :=
  ofBytewise (FilePath.join folder.bytewise path.bytewise)

def folderOf (p : SystemPath) : SystemPath := ofBytewise (FilePath.folderOf p.bytewise)

def extension? (p : SystemPath) : Option SystemPath :=
  (FilePath.extension? p.bytewise).map ofBytewise

end SystemPath

class Storage (m : Type → Type) where
  readText : SystemPath → m (Except String String)
  isFile : SystemPath → m Bool
  /-- A file that is there is replaced; its folder must be there. -/
  writeText : SystemPath → String → m (Except String Unit)
  /-- Folders that are there are kept. -/
  createFolders : SystemPath → m (Except String Unit)

end DesignMarkup
