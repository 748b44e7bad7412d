import DesignMarkup.Decimal.Reader
import DesignMarkup.Toml.Quoted
/-!
Dates and times in TOML. A date is known by its year, a time by its hour, and what follows has to be
well-formed. `Moment.text` is the one form in which they are passed on.
-/
namespace DesignMarkup.Toml

structure Date where
  year : Nat
  month : Nat
  day : Nat
deriving DecidableEq, Repr

structure Time where
  hour : Nat
  minute : Nat
  second : Nat
  nanosecond : Nat
deriving DecidableEq, Repr

inductive Offset where
  | zulu
  | minutes (east : Int)
deriving DecidableEq, Repr

structure Moment where
  date : Option Date := none
  time : Option Time := none
  offset : Option Offset := none
deriving DecidableEq, Repr

def padded (width n : Nat) : String :=
  let digits := Nat.toDigits 10 n
  String.ofList (List.replicate (width - digits.length) '0' ++ digits)

def Date.text (d : Date) : String :=
  padded 4 d.year ++ "-" ++ padded 2 d.month ++ "-" ++ padded 2 d.day

def hourText (hour minute : Nat) : String := padded 2 hour ++ ":" ++ padded 2 minute

def Time.text (t : Time) : String :=
  let idle := (padded 9 t.nanosecond).toList.reverse.dropWhile (· == '0')
  hourText t.hour t.minute ++ ":" ++ padded 2 t.second ++
    (if idle.isEmpty then "" else "." ++ String.ofList idle.reverse)

def Offset.text : Offset → String
  | zulu => "Z"
  | minutes east =>
    (if east < 0 then "-" else "+") ++ hourText (east.natAbs / 60) (east.natAbs % 60)

def Moment.text (m : Moment) : String :=
  let date := m.date.map Date.text
  let time := m.time.map Time.text
  "T".intercalate (date.toList ++ time.toList) ++ (m.offset.map Offset.text).getD ""

abbrev Scan := StateT (List Char) Reading

def field (width low high : Nat) : Scan Nat := fun s =>
  let digits := s.take width
  let n := Decimal.digitsValue digits
  if digits.length ≠ width ∨ !Decimal.allDigits digits then fail s none
  else if low ≤ n ∧ n ≤ high then .ok (n, s.drop width)
  else refuse s outOfRange

def mark (allowed : List Char) : Scan Char
  | [] => fail [] none
  | c :: s => if allowed.contains c then .ok (c, s) else fail (c :: s) none

def daysIn (year month : Nat) : Nat :=
  let isLeap : Bool := year % 4 == 0 && (year % 100 != 0 || year % 400 == 0)
  if month = 2 then (if isLeap then 29 else 28)
  else if [4, 6, 9, 11].contains month then 30
  else 31

/-- Before the commitment another reading is open. -/
def committing {α β : Type} (first : Scan α) (next : α → Scan β) : Scan β := fun s => do
  let (a, rest) ← (first.run s).tentative
  next a rest |>.final

def date : Scan Date :=
  let year : Scan Nat := do
    let year ← field 4 0 9999
    let _ ← mark ['-']
    return year
  committing year fun year => do
    let month ← field 2 1 12
    let _ ← mark ['-']
    return ⟨year, month, ← field 2 1 (daysIn year month)⟩

def hourAndMark : Scan Nat := do
  let hour ← field 2 0 23
  let _ ← mark [':']
  return hour

def secondFraction : Scan Nat := fun s =>
  match s with
  | '.' :: rest =>
    let digits := rest.takeWhile Char.isDigit
    if digits.isEmpty then .ok (0, s)
    else
      .ok (Decimal.digitsValue ((digits ++ List.replicate 9 '0').take 9),
        rest.dropWhile Char.isDigit)
  | _ => .ok (0, s)

def time : Scan Time :=
  committing hourAndMark fun hour => do
    let minute ← field 2 0 59
    let _ ← mark [':']
    let second ← field 2 0 60
    return ⟨hour, minute, second, ← secondFraction⟩

def offset : Scan Offset :=
  committing (mark ['Z', 'z', '+', '-']) fun c => fun s => .within "time offset" <|
    if c == '+' || c == '-' then
      StateT.run
        (do
          let hours ← hourAndMark
          let minutes : Int := hours * 60 + (← field 2 0 59)
          return .minutes (if c == '-' then -minutes else minutes))
        s
    else .ok (.zulu, s)

def maybeScan {α : Type} (scan : Scan α) : Scan (Option α) := fun s => do
  match ← (scan.run s).optional with
  | some (a, rest) => return (some a, rest)
  | none => return (none, s)

def clock : Scan (Time × Option Offset) := fun s => do
  let (_, rest) ← (mark ['T', 't', ' ']).run s |>.tentative
  (do return (← time, ← maybeScan offset) : Scan (Time × Option Offset)).run rest

def dateTime : Scan Moment := do
  let date ← date
  match ← maybeScan clock with
  | some (time, offset) => return { date := some date, time := some time, offset }
  | none => return { date := some date }

def moment (s : List Char) : Reading (Moment × List Char) := do
  match ← (Reading.within "date-time" (dateTime.run s)).optional with
  | some result => return result
  | none =>
    let (time, rest) ← Reading.within "time" (time.run s)
    return ({ time := some time }, rest)

end DesignMarkup.Toml
