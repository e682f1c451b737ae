import ActionLauncher.Time.Timestamp

namespace ActionLauncher.Time

/-- The short names of the days of the week, from the weekday of 1 January 1970 on. -/
def weekdayNames : List String :=
  ["Thu", "Fri", "Sat", "Sun", "Mon", "Tue", "Wed"]

def monthNames : List String :=
  ["Jan", "Feb", "Mar", "Apr", "May", "Jun", "Jul", "Aug", "Sep", "Oct", "Nov", "Dec"]

/-- The weekday, month, day, time of day, `UTC` and year. -/
def Timestamp.longDate (t : Timestamp) : String :=
  let days := t.seconds / 86400
  let date := Date.ofDays days
  let second := (t.seconds % 86400).toNat
  weekdayNames.getD (days % 7).toNat "" ++ " " ++ monthNames.getD (date.month - 1) "" ++ " " ++
    Timestamp.padded 2 date.day ++ " " ++ Timestamp.padded 2 (second / 3600) ++ ":" ++
    Timestamp.padded 2 (second / 60 % 60) ++ ":" ++ Timestamp.padded 2 (second % 60) ++ " UTC " ++
    Timestamp.yearText date.year

end ActionLauncher.Time
