import ActionLauncher.Text.Blank
import ActionLauncher.Text.Split
import ActionLauncher.Time.Timestamp

/-!
Reading timestamps: a date, a `T` or a space, a time of day with an optional fraction, and an
offset from universal time (`Z`, `UTC`, or a signed number of hours and minutes).  White space may
stand between the parts, and numbers may be shorter than they are written.  The date has to lie
within the years -262143 to 262142, as written and in universal time.
-/

namespace ActionLauncher.Time.Reader

open Text.Chars

/-- Reads at least one and at most `width` decimal digits after white space. -/
def number? (width : Nat) (s : List Char) : Option (Nat × List Char) :=
  let s := trimStart s
  let digits := (s.take width).takeWhile Text.isDecimal
  if digits.isEmpty then none
  else (Text.digitsValue? 10 0 digits).map fun n => (n, s.drop digits.length)

/-- Reads a year: at most four digits, or a sign and any number of digits. -/
def year? (s : List Char) : Option (Int × List Char) :=
  match trimStart s with
  | '-' :: rest => (unbounded? rest).map fun (n, rest) => (-n, rest)
  | '+' :: rest => (unbounded? rest).map fun (n, rest) => ((n : Int), rest)
  | s => (number? 4 s).map fun (n, rest) => ((n : Int), rest)
where
  /-- Reads digits that follow a sign at once. -/
  unbounded? (s : List Char) : Option (Nat × List Char) :=
    match s with
    | c :: _ => if Text.isDecimal c then number? s.length s else none
    | [] => none

/-- Reads one character after white space. -/
def mark? (mark : Char) (s : List Char) : Option (List Char) :=
  after? [mark] (trimStart s)

def firstYear : Int := -262143

def lastYear : Int := 262142

/-- Reads the date, as far as it exists and lies in a year of timestamps. -/
def date? (s : List Char) : Option (Date × List Char) := do
  let (year, s) ← year? s
  let (month, s) ← number? 2 (← mark? '-' s)
  let (day, s) ← number? 2 (← mark? '-' s)
  let date : Date := ⟨year, month, day⟩
  guard (date.exists? && firstYear ≤ year && year ≤ lastYear)
  return (date, s)

/-- Reads an optional fraction of a second; digits after the ninth do not count. -/
def fraction? (s : List Char) : Option (Nat × List Char) :=
  match s with
  | '.' :: rest =>
      let digits := (rest.take 9).takeWhile Text.isDecimal
      if digits.isEmpty then none
      else (Text.digitsValue? 10 0 digits).map fun n =>
        (n * Nat.pow 10 (9 - digits.length), rest.dropWhile Text.isDecimal)
  | _ => some (0, s)

/-- Reads the time of day: the second of the day and the nanoseconds, where a sixtieth second of a
minute is a leap second. -/
def timeOfDay? (s : List Char) : Option (Nat × Nat × List Char) := do
  let (hour, s) ← number? 2 s
  let (minute, s) ← number? 2 (← mark? ':' s)
  let (second, s) ← number? 2 (← mark? ':' s)
  let (nanos, s) ← fraction? s
  guard (hour < 24 && minute < 60 && second ≤ 60)
  if second = 60 then return (hour * 3600 + minute * 60 + 59, nanos + 1000000000, s)
  else return (hour * 3600 + minute * 60 + second, nanos, s)

/-- The two digits that a text starts with. -/
def twoDigits? (s : List Char) : Option (Nat × List Char) :=
  match s with
  | a :: b :: rest =>
      if Text.isDecimal a && Text.isDecimal b then
        (Text.digitsValue? 10 0 [a, b]).map fun n => (n, rest)
      else none
  | _ => none

def offset? (s : List Char) : Option (Int × List Char) :=
  match s with
  | 'Z' :: rest | 'z' :: rest => some (0, rest)
  | u :: t :: c :: rest =>
      if [u, t, c].map Char.toUpper = ['U', 'T', 'C'] then some (0, rest)
      else signed? s
  | _ => signed? s
where
  /-- Reads a sign, the hours, an optional colon or white space, and the minutes. -/
  signed? (s : List Char) : Option (Int × List Char) :=
    match s with
    | '+' :: rest => amount? rest
    | '-' :: rest => (amount? rest).map fun (n, rest) => (-n, rest)
    | '\u2212' :: rest => (amount? rest).map fun (n, rest) => (-n, rest)
    | _ => none
  /-- Reads the amount of an offset, less than a day. -/
  amount? (s : List Char) : Option (Int × List Char) := do
    let (hours, s) ← twoDigits? s
    let (minutes, s) ← twoDigits? (s.dropWhile fun c => c == ':' || Text.isWhite c)
    guard (hours < 24 && minutes < 60)
    return (((hours * 3600 + minutes * 60 : Nat) : Int), s)

/-- Whether the second, counted from the start of 1970, belongs to a year of timestamps. -/
def covers (second : Int) : Bool :=
  Date.toDays ⟨firstYear, 1, 1⟩ * 86400 ≤ second &&
    second < Date.toDays ⟨lastYear + 1, 1, 1⟩ * 86400

def timestamp? (s : List Char) : Option Timestamp := do
  let (date, s) ← date? s
  let s ← match s with
    | 'T' :: rest | 't' :: rest | ' ' :: rest => some rest
    | _ => none
  let (second, nanos, s) ← timeOfDay? s
  let (offset, s) ← offset? (trimStart s)
  let seconds := date.toDays * 86400 + second - offset
  guard (isBlank s && covers seconds)
  return ⟨seconds, nanos⟩

end ActionLauncher.Time.Reader

namespace ActionLauncher.Time.Timestamp

def read? (s : String) : Option Timestamp :=
  Reader.timestamp? s.toList

end ActionLauncher.Time.Timestamp
