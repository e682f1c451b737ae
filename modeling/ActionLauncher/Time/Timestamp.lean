import ActionLauncher.Text.Digits
import ActionLauncher.Time.Calendar

namespace ActionLauncher.Time

/-- Seconds from the start of 1970 in universal time.  During a leap second the nanoseconds run on
past one thousand million, in the second before it. -/
structure Timestamp where
  seconds : Int
  nanos : Nat
  deriving DecidableEq, Repr, Inhabited

namespace Timestamp

def ofSeconds (seconds : Int) : Timestamp :=
  ⟨seconds, 0⟩

def next (t : Timestamp) : Timestamp :=
  if t.nanos + 1 < 1000000000 then ⟨t.seconds, t.nanos + 1⟩ else ⟨t.seconds + 1, 0⟩

/-- The last `width` decimal digits of a number. -/
def padded (width n : Nat) : String :=
  String.ofList (Text.fixedDigits 10 width n)

/-- Four digits for the years 0 to 9999, a sign and at least four digits for all others. -/
def yearText (year : Int) : String :=
  if 0 ≤ year ∧ year ≤ 9999 then padded 4 year.toNat
  else
    let digits := Text.decimal year.natAbs
    let zeros := String.ofList (List.replicate (4 - digits.length) '0')
    (if year < 0 then "-" else "+") ++ zeros ++ digits

/-- The fraction of a second, with as few digits of none, three, six or nine as are exact. -/
def fractionText (nanos : Nat) : String :=
  if nanos = 0 then ""
  else if nanos % 1000000 = 0 then "." ++ padded 3 (nanos / 1000000)
  else if nanos % 1000 = 0 then "." ++ padded 6 (nanos / 1000)
  else "." ++ padded 9 nanos

def render (t : Timestamp) : String :=
  let date := Date.ofDays (t.seconds / 86400)
  let second := (t.seconds % 86400).toNat
  let leap := if t.nanos < 1000000000 then 0 else 1
  yearText date.year ++ "-" ++ padded 2 date.month ++ "-" ++ padded 2 date.day ++ "T" ++
    padded 2 (second / 3600) ++ ":" ++ padded 2 (second / 60 % 60) ++ ":" ++
    padded 2 (second % 60 + leap) ++ fractionText (t.nanos % 1000000000) ++ "Z"

end Timestamp

end ActionLauncher.Time
