import Mathlib.Data.Option.Basic
import ActionLauncher.Proofs.Numerals
import ActionLauncher.Time.Reader

namespace ActionLauncher.Time

namespace Date

/-! ### Days and dates -/

/-- The days of an era of 400 years before a year of it, where years start in March. -/
def daysBefore (year : Int) : Int :=
  365 * year + year / 4 - year / 100

/-- A day of an era lies in the year that is found for it, and is the last of 366 only when the
year ends in a leap year. -/
theorem yearOfEra_spec (day year : Int) (h0 : 0 ≤ day) (h1 : day < 146096)
    (hyear : year = (day - day / 1460 + day / 36524) / 365) :
    (0 ≤ year ∧ year < 400) ∧ (daysBefore year ≤ day ∧ day ≤ daysBefore year + 365) ∧
      (day = daysBefore year + 365 → (year + 1) % 4 = 0 ∧ (year + 1) % 100 ≠ 0) := by
  -- Where the century is known, the leap days before the year can be counted.
  have hcentury : year / 100 = day / 36524 := by
    have hq : day / 36524 = 0 ∨ day / 36524 = 1 ∨ day / 36524 = 2 ∨ day / 36524 = 3 := by omega
    rcases hq with hq | hq | hq | hq <;> rw [hq] at hyear ⊢ <;> omega
  have hlow : 36524 * (year / 100) ≤ day := by omega
  have hhigh : day < 36524 * (year / 100) + 36524 := by omega
  rw [← hcentury] at hyear
  unfold daysBefore
  refine ⟨by omega, ⟨by omega, by omega⟩, fun hlast => ?_⟩
  have hcycle : 1460 * (year / 4) + 1460 ≤ day := by omega
  have hfourth : year % 4 = 3 := by omega
  exact ⟨by omega, by omega⟩

/-- A day as its era, the year of the era and the day of that year, where years start in March. -/
structure Position (days era year day : Int) : Prop where
  inEra : 0 ≤ year ∧ year < 400
  inYear : 0 ≤ day ∧ day ≤ 365
  sum : days + 719468 = era * 146097 + daysBefore year + day
  leap : day = 365 → (year + 1) % 4 = 0 ∧ ((year + 1) % 100 ≠ 0 ∨ (year + 1) % 400 = 0)

/-- The date of a day of a year that starts in March. -/
def ofMarch (year day : Int) : Date :=
  let month := (5 * day + 2) / 153
  let dayOfMonth := day - (153 * month + 2) / 5 + 1
  if month < 10 then ⟨year, (month + 3).toNat, dayOfMonth.toNat⟩
  else ⟨year + 1, (month - 9).toNat, dayOfMonth.toNat⟩

theorem exists_position (days : Int) : ∃ era year day,
    Position days era year day ∧ ofDays days = ofMarch (year + era * 400) day := by
  generalize hday : (days + 719468) % 146097 = day
  generalize hyear : (day - day / 1460 + day / 36524 - day / 146096) / 365 = year
  refine ⟨(days + 719468) / 146097, year, day - daysBefore year, ?_, ?_⟩
  · -- The leap day at the end of an era is the only one that a fourth century ends with.
    by_cases hlast : day = 146096
    · subst hlast
      have hyear : year = 399 := by omega
      subst hyear
      exact ⟨by decide, by decide, by omega, by decide⟩
    · obtain ⟨hera, hbounds, hleap⟩ :=
        yearOfEra_spec day year (by omega) (by omega) (by omega)
      refine ⟨hera, by omega, by omega, fun h => ?_⟩
      obtain ⟨hfour, hhundred⟩ := hleap (by omega)
      exact ⟨hfour, .inl hhundred⟩
  · unfold ofDays
    simp only [hday, hyear]
    rfl

theorem toDays_ofMarch {days era year day : Int} (h : Position days era year day) :
    toDays (ofMarch (year + era * 400) day) = days := by
  obtain ⟨hyear, hday, hdays, -⟩ := h
  have hera : (year + era * 400) / 400 = era ∧ (year + era * 400) % 400 = year := by omega
  unfold daysBefore at hdays
  unfold ofMarch
  generalize hmonth : (5 * day + 2) / 153 = month
  by_cases hsame : month < 10
  · have hthis : ((month + 3).toNat : Int) = month + 3 := by omega
    simp only [if_pos hsame, toDays, hthis, if_neg (show ¬ (month + 3).toNat ≤ 2 by omega), hera]
    omega
  · have hthis : ((month - 9).toNat : Int) = month - 9 := by omega
    simp only [if_neg hsame, toDays, hthis, if_pos (show (month - 9).toNat ≤ 2 by omega),
      Int.add_sub_cancel, hera]
    omega

theorem exists_ofMarch {days era year day : Int} (h : Position days era year day) :
    (ofMarch (year + era * 400) day).exists? = true := by
  obtain ⟨hyear, hday, -, hleap⟩ := h
  unfold ofMarch
  generalize hmonth : (5 * day + 2) / 153 = month
  by_cases hsame : month < 10
  · simp only [if_pos hsame, exists?, daysInMonth, Bool.and_eq_true, decide_eq_true_eq]
    split_ifs <;> omega
  · simp only [if_neg hsame, exists?, daysInMonth, isLeapYear, Bool.and_eq_true,
      decide_eq_true_eq, Bool.or_eq_true, beq_iff_eq, bne_iff_ne]
    split_ifs <;> omega

theorem toDays_ofDays (days : Int) : toDays (ofDays days) = days := by
  obtain ⟨era, year, day, h, hdate⟩ := exists_position days
  rw [hdate, toDays_ofMarch h]

theorem exists_ofDays (days : Int) : (ofDays days).exists? = true := by
  obtain ⟨era, year, day, h, hdate⟩ := exists_position days
  rw [hdate, exists_ofMarch h]

end Date

namespace Reader

open Text.Chars

variable {rest : List Char}

/-! ### The parts of a timestamp -/

theorem isDecimal_of_mem_fixedDigits {c : Char} {width n : Nat}
    (h : c ∈ Text.fixedDigits 10 width n) : Text.isDecimal c = true := by
  have hdigit : ∀ d < 10, Text.isDecimal (Text.lowerDigit d) = true := by decide
  obtain ⟨d, hd, rfl⟩ := Text.exists_of_mem_fixedDigits (by decide) h
  exact hdigit d hd

theorem trimStart_of_not_white {c : Char} (h : Text.isWhite c = false) :
    trimStart (c :: rest) = c :: rest := by
  rw [trimStart, List.dropWhile_cons_of_neg (by simp [h])]

theorem fixedDigits_isEmpty {width n : Nat} (hwidth : 0 < width) :
    (Text.fixedDigits 10 width n).isEmpty = false := by
  rw [List.isEmpty_eq_false_iff, ← List.length_pos_iff, Text.fixedDigits_length]
  exact hwidth

theorem exists_fixedDigits_cons {width n : Nat} (hwidth : 0 < width) (rest : List Char) :
    ∃ c s, Text.fixedDigits 10 width n ++ rest = c :: s ∧ Text.isDecimal c = true := by
  have hne := fixedDigits_isEmpty (n := n) hwidth
  cases hchars : Text.fixedDigits 10 width n with
  | nil =>
      rw [hchars] at hne
      cases hne
  | cons c s =>
      exact ⟨c, s ++ rest, rfl, isDecimal_of_mem_fixedDigits (hchars ▸ List.mem_cons_self)⟩

theorem not_white_of_isDecimal {c : Char} (h : Text.isDecimal c = true) :
    Text.isWhite c = false := by
  have hrange : '0'.val.toNat ≤ c.val.toNat ∧ c.val.toNat ≤ '9'.val.toNat := by
    simpa only [Text.isDecimal, Char.le_def, UInt32.le_iff_toNat_le, Bool.and_eq_true,
      decide_eq_true_eq] using h
  have hzero : '0'.val.toNat = 48 := rfl
  have hnine : '9'.val.toNat = 57 := rfl
  have hcode : c.val.toNat = c.toNat := rfl
  simp only [Text.isWhite, Bool.or_eq_false_iff, Bool.and_eq_false_iff, decide_eq_false_iff_not,
    beq_eq_false_iff_ne]
  omega

theorem trimStart_fixedDigits {width n : Nat} (hwidth : 0 < width) (rest : List Char) :
    trimStart (Text.fixedDigits 10 width n ++ rest) = Text.fixedDigits 10 width n ++ rest := by
  obtain ⟨c, s, heq, hc⟩ := exists_fixedDigits_cons (n := n) hwidth rest
  rw [heq, trimStart_of_not_white (not_white_of_isDecimal hc)]

/-- A reader of at most `limit` digits takes a numeral that fills the limit or ends before it. -/
theorem takeWhile_take_fixedDigits {width limit : Nat} (n : Nat) (rest : List Char)
    (hle : width ≤ limit)
    (hend : limit = width ∨ ∀ c ∈ rest.head?, Text.isDecimal c = false) :
    ((Text.fixedDigits 10 width n ++ rest).take limit).takeWhile Text.isDecimal =
      Text.fixedDigits 10 width n := by
  have hlength := Text.fixedDigits_length 10 width n
  have hdigits : ∀ c ∈ Text.fixedDigits 10 width n, Text.isDecimal c = true :=
    fun _ => isDecimal_of_mem_fixedDigits
  have hstop : (rest.take (limit - width)).takeWhile Text.isDecimal = [] := by
    rcases hend with rfl | hend
    · simp
    · cases rest with
      | nil => simp
      | cons c rest => cases hlimit : limit - width <;> simp [hend c rfl]
  rw [List.take_append, hlength, List.take_of_length_le (by omega),
    List.takeWhile_append_of_pos hdigits, hstop, List.append_nil]

theorem number?_fixedDigits {width n : Nat} (hwidth : 0 < width) (h : n < Nat.pow 10 width)
    (rest : List Char) :
    number? width (Text.fixedDigits 10 width n ++ rest) = some (n, rest) := by
  have htake := takeWhile_take_fixedDigits n rest (Nat.le_refl width) (.inl rfl)
  have hvalue := Text.digitsValue?_fixedDigits_of_lt (show 10 ≤ 16 by decide) (by decide) h
  rw [number?, trimStart_fixedDigits hwidth]
  simp only [htake, fixedDigits_isEmpty hwidth, hvalue, Bool.false_eq_true, if_false,
    Option.map_some, List.drop_left]

theorem number?_two {n : Nat} (h : n < 100) (rest : List Char) :
    number? 2 (Text.fixedDigits 10 2 n ++ rest) = some (n, rest) :=
  number?_fixedDigits (by decide) h rest

theorem mark?_cons {c : Char} (h : Text.isWhite c = false) : mark? c (c :: rest) = some rest := by
  rw [mark?, trimStart_of_not_white h]
  exact after?_append [c] rest

theorem year?_fixedDigits {n : Nat} (h : n < 10000) :
    year? (Text.fixedDigits 10 4 n ++ rest) = some ((n : Int), rest) := by
  obtain ⟨c, s, heq, hc⟩ := exists_fixedDigits_cons (n := n) (show 0 < 4 by decide) rest
  have hnumber := number?_fixedDigits (show 0 < 4 by decide) h rest
  rw [heq] at hnumber
  rw [heq, year?, trimStart_of_not_white (not_white_of_isDecimal hc)]
  split
  · next h =>
      cases h
      simp [Text.isDecimal] at hc
  · next h =>
      cases h
      simp [Text.isDecimal] at hc
  · rw [hnumber, Option.map_some]

theorem fraction?_padded {width n : Nat} (hwidth : 0 < width) (hle : width ≤ 9)
    (h : n < Nat.pow 10 width) :
    fraction? ('.' :: (Text.fixedDigits 10 width n ++ ['Z'])) =
      some (n * Nat.pow 10 (9 - width), ['Z']) := by
  have hvalue := Text.digitsValue?_fixedDigits_of_lt (show 10 ≤ 16 by decide) (by decide) h
  have hdigits : ∀ c ∈ Text.fixedDigits 10 width n, Text.isDecimal c = true :=
    fun _ => isDecimal_of_mem_fixedDigits
  have hdrop : (Text.fixedDigits 10 width n ++ ['Z']).dropWhile Text.isDecimal = ['Z'] := by
    rw [List.dropWhile_append_of_pos hdigits]
    rfl
  have htake := takeWhile_take_fixedDigits n ['Z'] hle
    (.inr (by rintro c ⟨⟩; rfl))
  simp [fraction?, htake, fixedDigits_isEmpty hwidth, hvalue, hdrop]

theorem fraction?_fractionText {nanos : Nat} (h : nanos < 1000000000) :
    fraction? ((Timestamp.fractionText nanos).toList ++ ['Z']) = some (nanos, ['Z']) := by
  unfold Timestamp.fractionText
  split_ifs with hzero hmillis hmicros
  · simp [hzero, fraction?]
  · have hbound : nanos / 1000000 < 1000 := by omega
    have hvalue : nanos / 1000000 * 1000000 = nanos := by omega
    have hread := fraction?_padded (show 0 < 3 by decide) (by decide) hbound
    rw [show Nat.pow 10 (9 - 3) = 1000000 from rfl, hvalue] at hread
    simpa [Timestamp.padded] using hread
  · have hbound : nanos / 1000 < 1000000 := by omega
    have hvalue : nanos / 1000 * 1000 = nanos := by omega
    have hread := fraction?_padded (show 0 < 6 by decide) (by decide) hbound
    rw [show Nat.pow 10 (9 - 6) = 1000 from rfl, hvalue] at hread
    simpa [Timestamp.padded] using hread
  · have hread := fraction?_padded (show 0 < 9 by decide) (by decide) h
    rw [show Nat.pow 10 (9 - 9) = 1 from rfl, Nat.mul_one] at hread
    simpa [Timestamp.padded] using hread

/-! ### The whole timestamp -/

theorem date?_written {date : Date} (hexists : date.exists? = true)
    (hyear : 0 ≤ date.year ∧ date.year ≤ 9999) (rest : List Char) :
    date? (Text.fixedDigits 10 4 date.year.toNat ++ '-' ::
        (Text.fixedDigits 10 2 date.month ++ '-' :: (Text.fixedDigits 10 2 date.day ++ rest))) =
      some (date, rest) := by
  have hbounds : date.month < 100 ∧ date.day < 100 := by
    simp only [Date.exists?, Date.daysInMonth, Bool.and_eq_true, decide_eq_true_eq] at hexists
    grind
  have hvalue : ((date.year.toNat : Nat) : Int) = date.year := Int.toNat_of_nonneg hyear.1
  have hinside : firstYear ≤ date.year ∧ date.year ≤ lastYear := by
    unfold firstYear lastYear
    omega
  simp only [date?, year?_fixedDigits (show date.year.toNat < 10000 by omega),
    mark?_cons (show Text.isWhite '-' = false by decide),
    number?_two hbounds.1, number?_two hbounds.2, hvalue, Option.bind_eq_bind,
    Option.bind_some]
  have hvalid : (date.exists? && decide (firstYear ≤ date.year) &&
      decide (date.year ≤ lastYear)) = true := by
    simp [hexists, hinside]
  rw [guard, if_pos hvalid]
  rfl

theorem timeOfDay?_written {second nanos : Nat} (hsecond : second < 86400)
    (hnanos : nanos < 1000000000 ∨ (nanos < 2000000000 ∧ second % 60 = 59)) :
    timeOfDay? (Text.fixedDigits 10 2 (second / 3600) ++ ':' ::
        (Text.fixedDigits 10 2 (second / 60 % 60) ++ ':' ::
          (Text.fixedDigits 10 2 (second % 60 + if nanos < 1000000000 then 0 else 1) ++
            ((Timestamp.fractionText (nanos % 1000000000)).toList ++ ['Z'])))) =
      some (second, nanos, ['Z']) := by
  generalize hshown : (second % 60 + if nanos < 1000000000 then 0 else 1) = shown
  have hbounds : second / 3600 < 24 ∧ second / 60 % 60 < 60 ∧ shown ≤ 60 := by
    split at hshown <;> omega
  simp only [timeOfDay?, number?_two (show second / 3600 < 100 by omega),
    number?_two (show second / 60 % 60 < 100 by omega), number?_two (show shown < 100 by omega),
    mark?_cons (show Text.isWhite ':' = false by decide),
    fraction?_fractionText (Nat.mod_lt nanos (by decide : 0 < 1000000000)),
    Option.bind_eq_bind, Option.bind_some]
  have hvalid : (decide (second / 3600 < 24) && decide (second / 60 % 60 < 60) &&
      decide (shown ≤ 60)) = true := by
    simp [hbounds]
  rw [guard, if_pos hvalid]
  -- A leap second is shown as the sixtieth, and never without one.
  by_cases hleap : nanos < 1000000000
  · rw [if_pos hleap] at hshown
    have hne : shown ≠ 60 := by omega
    have hsum : second / 3600 * 3600 + second / 60 % 60 * 60 + shown = second := by omega
    simp [hne, hsum, Nat.mod_eq_of_lt hleap]
  · rw [if_neg hleap] at hshown
    have heq : shown = 60 := by omega
    have hsum : second / 3600 * 3600 + second / 60 % 60 * 60 + 59 = second := by omega
    have hrest : nanos % 1000000000 + 1000000000 = nanos := by omega
    simp [heq, hsum, hrest]

theorem covers_of_year {second : Int}
    (hyear : 0 ≤ (Date.ofDays (second / 86400)).year ∧
      (Date.ofDays (second / 86400)).year ≤ 9999) : covers second = true := by
  have hdays := Date.toDays_ofDays (second / 86400)
  have hexists := Date.exists_ofDays (second / 86400)
  generalize Date.ofDays (second / 86400) = date at hyear hdays hexists
  have hfirst : Date.toDays ⟨firstYear, 1, 1⟩ ≤ -90000000 := by decide
  have hlast : 90000000 ≤ Date.toDays ⟨lastYear + 1, 1, 1⟩ := by decide
  have hmonth : date.month ≤ 12 ∧ date.day ≤ 31 := by
    simp only [Date.exists?, Date.daysInMonth, Bool.and_eq_true, decide_eq_true_eq] at hexists
    grind
  have hbounds : -719999 ≤ second / 86400 ∧ second / 86400 ≤ 3000000 := by
    rw [← hdays]
    unfold Date.toDays
    dsimp only
    split_ifs <;> omega
  simp only [covers, Bool.and_eq_true, decide_eq_true_eq]
  omega

end Reader

namespace Timestamp

/-- A timestamp of the years with four digits, where only the last second of a minute may be a
leap second. -/
structure Proper (t : Timestamp) : Prop where
  year : 0 ≤ (Date.ofDays (t.seconds / 86400)).year ∧
    (Date.ofDays (t.seconds / 86400)).year ≤ 9999
  nanos : t.nanos < 1000000000 ∨ (t.nanos < 2000000000 ∧ t.seconds % 60 = 59)

theorem read?_render {t : Timestamp} (h : t.Proper) : read? t.render = some t := by
  have hsecond : (t.seconds % 86400).toNat < 86400 := by omega
  have hnanos : t.nanos < 1000000000 ∨
      (t.nanos < 2000000000 ∧ (t.seconds % 86400).toNat % 60 = 59) := by
    have := h.nanos
    omega
  have hdate := Reader.date?_written (Date.exists_ofDays (t.seconds / 86400)) h.year
  have htime := Reader.timeOfDay?_written hsecond hnanos
  have hoffset : Reader.offset? (Text.Chars.trimStart ['Z']) = some (0, []) := rfl
  have hyear : yearText (Date.ofDays (t.seconds / 86400)).year =
      padded 4 (Date.ofDays (t.seconds / 86400)).year.toNat := if_pos h.year
  have hcovers := Reader.covers_of_year h.year
  have hdays := Date.toDays_ofDays (t.seconds / 86400)
  have hsum : t.seconds / 86400 * 86400 + ((t.seconds % 86400).toNat : Int) = t.seconds := by
    omega
  simp only [read?, render, hyear, padded, String.toList_append, String.toList_ofList,
    List.append_assoc, show "-".toList = ['-'] from rfl, show "T".toList = ['T'] from rfl,
    show ":".toList = [':'] from rfl, show "Z".toList = ['Z'] from rfl, List.cons_append,
    List.nil_append]
  simp only [Reader.timestamp?, hdate, htime, hoffset, hdays, Int.sub_zero, hsum, hcovers,
    Option.bind_eq_bind, Option.bind_some]
  rfl

end Timestamp

end ActionLauncher.Time
