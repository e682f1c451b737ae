import Mathlib.Algebra.Group.Nat.Defs
import Mathlib.Tactic.SplitIfs
import ActionLauncher.Proofs.Numerals
import ActionLauncher.Proofs.PropertyFile
import ActionLauncher.Proofs.TableLaws
import ActionLauncher.Time.LongDate

namespace ActionLauncher

namespace Text

theorem digitsValue?_fixedUpperHex (width n : Nat) :
    digitsValue? 16 0 (fixedUpperHex width n) = some (n % 16 ^ width) := by
  induction width generalizing n with
  | zero => simp [fixedUpperHex, digitsValue?, Nat.mod_one]
  | succ width ih =>
      have hdigit : IsDigit 16 (n % 16) (upperDigit (n % 16)) :=
        ⟨Nat.mod_lt n (by decide), .inr rfl⟩
      have hvalue : n / 16 % 16 ^ width * 16 + n % 16 = n % 16 ^ (width + 1) := by
        rw [Nat.pow_succ', Nat.mod_mul]
        omega
      rw [fixedUpperHex, digitsValue?_concat (by decide) hdigit, ih, Option.map_some, hvalue]

end Text

namespace Time.Timestamp

def StaysOnLine (s : String) : Prop :=
  ∀ c ∈ s.toList, c ≠ '\n' ∧ c ≠ '\r'

theorem StaysOnLine.append {s t : String} (hs : StaysOnLine s) (ht : StaysOnLine t) :
    StaysOnLine (s ++ t) := by
  intro c hc
  rw [String.toList_append, List.mem_append] at hc
  exact hc.elim (hs c) (ht c)

theorem staysOnLine_getD {names : List String} (h : ∀ name ∈ names, StaysOnLine name) (i : Nat) :
    StaysOnLine (names.getD i "") := by
  rw [List.getD_eq_getElem?_getD]
  cases hi : names[i]? with
  | none => exact fun c hc => absurd hc (by simp)
  | some name => exact h name (List.mem_of_getElem? hi)

theorem staysOnLine_padded (width n : Nat) : StaysOnLine (padded width n) := by
  have hdigits : ∀ d ∈ List.range 10, Text.lowerDigit d ≠ '\n' ∧ Text.lowerDigit d ≠ '\r' := by
    decide
  unfold StaysOnLine padded
  rw [String.toList_ofList]
  induction width generalizing n with
  | zero => simp [Text.fixedDigits]
  | succ width ih =>
      intro c hc
      rw [Text.fixedDigits, List.mem_append, List.mem_singleton] at hc
      rcases hc with hc | rfl
      · exact ih _ c hc
      · exact hdigits _ (List.mem_range.2 (Nat.mod_lt n (by decide)))

theorem staysOnLine_yearText (year : Int) : StaysOnLine (yearText year) := by
  have hdecimal (n : Nat) : StaysOnLine (Text.decimal n) := by
    intro c hc
    rw [Text.decimal, String.toList_ofList] at hc
    have hdigit := Nat.isDigit_of_mem_toDigits (by decide) (by decide) hc
    constructor <;> rintro rfl <;> exact absurd hdigit (by decide)
  have hzeros (n : Nat) : StaysOnLine (String.ofList (List.replicate n '0')) := by
    intro c hc
    rw [String.toList_ofList, List.mem_replicate] at hc
    rw [hc.2]
    decide
  have hsign : StaysOnLine (if year < 0 then "-" else "+") := by
    split <;> simp [StaysOnLine]
  unfold yearText
  split
  · exact staysOnLine_padded 4 _
  · exact (hsign.append (hzeros _)).append (hdecimal _)

theorem staysOnLine_longDate (t : Timestamp) : StaysOnLine t.longDate := by
  have hweekday : ∀ name ∈ weekdayNames, StaysOnLine name := by
    simp [weekdayNames, StaysOnLine]
  have hmonth : ∀ name ∈ monthNames, StaysOnLine name := by
    simp [monthNames, StaysOnLine]
  have hspace : StaysOnLine " " := by simp [StaysOnLine]
  have hcolon : StaysOnLine ":" := by simp [StaysOnLine]
  have hzone : StaysOnLine " UTC " := by simp [StaysOnLine]
  unfold longDate
  exact (((((((((((((staysOnLine_getD hweekday _).append hspace).append
    (staysOnLine_getD hmonth _)).append hspace).append (staysOnLine_padded _ _)).append
    hspace).append (staysOnLine_padded _ _)).append hcolon).append
    (staysOnLine_padded _ _)).append hcolon).append (staysOnLine_padded _ _)).append
    hzone).append (staysOnLine_yearText _))

end Time.Timestamp

namespace OutputSheet

open PropertyFile

/-- A printable character without a meaning of its own in a property file. -/
def isBare (c : Char) : Bool :=
  ' ' ≤ c && c ≤ '~' && !(c == '\\' || c == '=' || c == ':' || c == '#' || c == '!')

theorem not_isBare_of_mem {c : Char}
    (h : c ∈ ['\n', '\r', '\t', '\x0c', '\\', '=', ':', '#', '!']) : isBare c = false := by
  have hall : ['\n', '\r', '\t', '\x0c', '\\', '=', ':', '#', '!'].all (!isBare ·) = true := by
    decide
  simpa using List.all_eq_true.1 hall c h

theorem ne_of_isBare {c d : Char} (h : isBare c = true)
    (hd : d ∈ ['\n', '\r', '\t', '\x0c', '\\', '=', ':', '#', '!']) : c ≠ d := by
  rintro rfl
  rw [not_isBare_of_mem hd] at h
  exact absurd h (by decide)

theorem isGap_of_isBare {c : Char} (h : isBare c = true) (hspace : c ≠ ' ') :
    isGap c = false := by
  simp [isGap, hspace, ne_of_isBare h]

theorem isSeparator_of_isBare {c : Char} (h : isBare c = true) : isSeparator c = false := by
  simp [isSeparator, ne_of_isBare h]

theorem isBare_upperDigit (n : Nat) :
    isBare (Text.upperDigit (n % 16)) = true ∧ Text.upperDigit (n % 16) ≠ ' ' := by
  have hall : ∀ d ∈ List.range 16, isBare (Text.upperDigit d) = true ∧ Text.upperDigit d ≠ ' ' := by
    decide
  exact hall _ (List.mem_range.2 (Nat.mod_lt n (by decide)))

theorem isBare_of_mem_fixedUpperHex {width n : Nat} {c : Char}
    (h : c ∈ Text.fixedUpperHex width n) : isBare c = true := by
  induction width generalizing n with
  | zero => simp [Text.fixedUpperHex] at h
  | succ width ih =>
      rw [Text.fixedUpperHex, List.mem_append, List.mem_singleton] at h
      rcases h with h | rfl
      · exact ih h
      · exact (isBare_upperDigit n).1

def unitEscape (unit : Nat) : List Char :=
  '\\' :: 'u' :: Text.fixedUpperHex 4 unit

/-- What stands for a character: itself, the escape of one character, or those of its units. -/
inductive Written (c : Char) : List Char → Prop
  | bare (h : isBare c = true) : Written c [c]
  | mark (mark : Char) (hmeans : escapee mark = c) (hunit : mark ≠ 'u')
      (hline : mark ≠ '\n' ∧ mark ≠ '\r') : Written c ['\\', mark]
  | escapes : Written c ((units c).flatMap unitEscape)

theorem escapeChar_written (c : Char) : Written c (escapeChar c) := by
  unfold escapeChar
  split_ifs with hslash htab hfeed hreturn hform hmark hprintable
  · subst hslash
    exact .mark '\\' rfl (by decide) (by decide)
  · subst htab
    exact .mark 't' rfl (by decide) (by decide)
  · subst hfeed
    exact .mark 'n' rfl (by decide) (by decide)
  · subst hreturn
    exact .mark 'r' rfl (by decide) (by decide)
  · subst hform
    exact .mark 'f' rfl (by decide) (by decide)
  · rcases hmark with rfl | rfl | rfl | rfl <;> exact .mark _ rfl (by decide) (by decide)
  · refine .bare ?_
    simp_all [isBare]
  · exact .escapes

theorem escapeSpaceToo_written (c : Char) : Written c (escapeSpaceToo c) := by
  unfold escapeSpaceToo
  split_ifs with hspace
  · subst hspace
    exact .mark ' ' rfl (by decide) (by decide)
  · exact escapeChar_written c

theorem units_lt {c : Char} {unit : Nat} (h : unit ∈ units c) : unit < 0x10000 := by
  have hvalid : c.toNat < 0xD800 ∨ 0xDFFF < c.toNat ∧ c.toNat < 0x110000 := c.valid
  unfold units at h
  dsimp only at h
  split_ifs at h with hsmall
  · rw [List.mem_singleton] at h
    omega
  · rw [List.mem_cons, List.mem_singleton] at h
    omega

theorem units_ne_nil (c : Char) : units c ≠ [] := by
  unfold units
  dsimp only
  split_ifs <;> simp

theorem Written.ne_space {c : Char} {w : List Char} (h : Written c w) (hc : c ≠ ' ') :
    w ≠ [' '] := by
  cases h with
  | bare h => simpa using hc
  | mark mark => simp
  | escapes =>
      obtain ⟨unit, us, hunits⟩ := List.exists_cons_of_ne_nil (units_ne_nil c)
      simp [hunits, unitEscape]

theorem escapeSpaceToo_ne_space (c : Char) : escapeSpaceToo c ≠ [' '] := by
  unfold escapeSpaceToo
  split_ifs with hspace
  · simp
  · exact (escapeChar_written c).ne_space hspace

theorem unitEscape_eq (unit : Nat) :
    unitEscape unit = ['\\', 'u', Text.upperDigit (unit / 16 / 16 / 16 % 16),
      Text.upperDigit (unit / 16 / 16 % 16), Text.upperDigit (unit / 16 % 16),
      Text.upperDigit (unit % 16)] :=
  rfl

theorem unescape_unitEscape {unit : Nat} (h : unit < 0x10000) (rest : List Char) :
    unescape (unitEscape unit ++ rest) = (unescape rest).map (unit :: ·) := by
  have hvalue : Text.digitsValue? 16 0 (Text.fixedUpperHex 4 unit) = some unit := by
    have hmod : unit % 16 ^ 4 = unit := Nat.mod_eq_of_lt h
    rw [Text.digitsValue?_fixedUpperHex, hmod]
  show (Text.digitsValue? 16 0 (Text.fixedUpperHex 4 unit)).bind _ = _
  rw [hvalue]
  rfl

theorem unescape_unitEscapes {us : List Nat} (h : ∀ unit ∈ us, unit < 0x10000)
    (rest : List Char) :
    unescape (us.flatMap unitEscape ++ rest) = (unescape rest).map (us ++ ·) := by
  induction us with
  | nil => simp
  | cons unit us ih =>
      rw [List.forall_mem_cons] at h
      rw [List.flatMap_cons, List.append_assoc, unescape_unitEscape h.1, ih h.2, Option.map_map]
      rfl

theorem splitKey_unitEscape (unit : Nat) (rest : List Char) :
    splitKey (unitEscape unit ++ rest) =
      (unitEscape unit ++ (splitKey rest).1, (splitKey rest).2) := by
  have hdigit (n : Nat) (rest : List Char) : splitKey (Text.upperDigit (n % 16) :: rest) =
      (Text.upperDigit (n % 16) :: (splitKey rest).1, (splitKey rest).2) := by
    obtain ⟨hbare, hspace⟩ := isBare_upperDigit n
    refine splitKey_plain (ne_of_isBare hbare (by decide)) ?_ rest
    rw [isSeparator_of_isBare hbare, isGap_of_isBare hbare hspace, Bool.or_self]
  simp [unitEscape_eq, splitKey, hdigit]

namespace Written

variable {c : Char} {w : List Char}

theorem unescape_append (h : Written c w) (rest : List Char) :
    unescape (w ++ rest) = (unescape rest).map (units c ++ ·) := by
  cases h with
  | bare h => exact unescape_plain (ne_of_isBare h (by decide)) rest
  | mark mark hmeans hunit hline =>
      rw [← hmeans]
      exact unescape_escape hunit rest
  | escapes => exact unescape_unitEscapes (fun _ => units_lt) rest

theorem splitKey_append (h : Written c w) (hspace : w ≠ [' ']) (rest : List Char) :
    splitKey (w ++ rest) = (w ++ (splitKey rest).1, (splitKey rest).2) := by
  cases h with
  | bare h =>
      refine splitKey_plain (ne_of_isBare h (by decide)) ?_ rest
      rw [isSeparator_of_isBare h, isGap_of_isBare h (by simpa using hspace), Bool.or_self]
  | mark mark => rfl
  | escapes =>
      generalize units c = us
      induction us with
      | nil => rfl
      | cons unit us ih =>
          rw [List.flatMap_cons, List.append_assoc, splitKey_unitEscape, ih]
          simp

theorem isOpen_append (h : Written c w) {front : List Char} (hfront : isOpen front = false) :
    isOpen (front ++ w) = false := by
  cases h with
  | bare h => exact isOpen_of_getLast (ne_of_isBare h (by decide))
  | mark mark =>
      -- Two backslashes keep the number of backslashes at the end even.
      by_cases hmark : mark = '\\'
      · rw [hmark, isOpen_append_backslashes, hfront]
      · rw [List.append_cons]
        exact isOpen_of_getLast hmark
  | escapes =>
      generalize units c = us
      induction us generalizing front with
      | nil => simpa using hfront
      | cons unit us ih =>
          rw [List.flatMap_cons, ← List.append_assoc]
          refine ih ?_
          rw [unitEscape, Text.fixedUpperHex, ← List.cons_append, ← List.cons_append,
            ← List.append_assoc]
          exact isOpen_of_getLast (ne_of_isBare (isBare_upperDigit unit).1 (by decide))

theorem staysOnLine (h : Written c w) : ∀ d ∈ w, d ≠ '\n' ∧ d ≠ '\r' := by
  cases h with
  | bare h => simp [ne_of_isBare h]
  | mark mark hmeans hunit hline => simp [hline]
  | escapes =>
      intro d hd
      obtain ⟨unit, -, hd⟩ := List.mem_flatMap.1 hd
      rw [unitEscape, List.mem_cons, List.mem_cons] at hd
      rcases hd with rfl | rfl | hd
      · decide
      · decide
      · have hbare := isBare_of_mem_fixedUpperHex hd
        exact ⟨ne_of_isBare hbare (by decide), ne_of_isBare hbare (by decide)⟩

theorem head (h : Written c w) (hspace : w ≠ [' ']) (rest : List Char) :
    (w ++ rest).dropWhile isGap = w ++ rest ∧ isIdle (w ++ rest) = false := by
  cases h with
  | bare h =>
      have hgap := isGap_of_isBare h (by simpa using hspace)
      simp [hgap, isIdle, ne_of_isBare h]
  | mark mark => exact ⟨rfl, rfl⟩
  | escapes =>
      obtain ⟨unit, us, hunits⟩ := List.exists_cons_of_ne_nil (units_ne_nil c)
      rw [hunits]
      exact ⟨rfl, rfl⟩

end Written

/-- What stands for a text, character by character. -/
inductive WrittenText : List Char → List Char → Prop
  | nil : WrittenText [] []
  | cons {c : Char} {s w ws : List Char} (first : Written c w) (rest : WrittenText s ws) :
      WrittenText (c :: s) (w ++ ws)

namespace WrittenText

variable {s w : List Char}

theorem flatMap {f : Char → List Char} (h : ∀ c, Written c (f c)) (s : List Char) :
    WrittenText s (s.flatMap f) := by
  induction s with
  | nil => exact .nil
  | cons c s ih => exact .cons (h c) ih

theorem unescape_eq (h : WrittenText s w) : unescape w = some (s.flatMap units) := by
  induction h with
  | nil => rfl
  | cons first rest ih => rw [first.unescape_append, ih, Option.map_some, List.flatMap_cons]

theorem readText_eq (h : WrittenText s w) : readText w = some (String.ofList s) := by
  rw [readText, h.unescape_eq, Option.bind_some, ofUnits?_units, Option.map_some]

theorem isOpen_append (h : WrittenText s w) {front : List Char} (hfront : isOpen front = false) :
    isOpen (front ++ w) = false := by
  induction h generalizing front with
  | nil => simpa using hfront
  | cons first rest ih =>
      rw [← List.append_assoc]
      exact ih (first.isOpen_append hfront)

theorem staysOnLine (h : WrittenText s w) : ∀ c ∈ w, c ≠ '\n' ∧ c ≠ '\r' := by
  induction h with
  | nil => simp
  | cons first rest ih =>
      rw [List.forall_mem_append]
      exact ⟨first.staysOnLine, ih⟩

end WrittenText

theorem escapeKey_written (s : List Char) : WrittenText s (escapeKey s) :=
  .flatMap escapeSpaceToo_written s

theorem escapeValue_written (s : List Char) : WrittenText s (escapeValue s) := by
  cases s with
  | nil => exact .nil
  | cons c s => exact .cons (escapeSpaceToo_written c) (.flatMap escapeChar_written s)

theorem splitKey_escapeKey (s rest : List Char) :
    splitKey (escapeKey s ++ '=' :: rest) = (escapeKey s, '=' :: rest) := by
  induction s with
  | nil => rfl
  | cons c s ih =>
      rw [escapeKey, List.flatMap_cons, List.append_assoc,
        (escapeSpaceToo_written c).splitKey_append (escapeSpaceToo_ne_space c), ← escapeKey, ih]

theorem afterSeparator_escapeValue (s : List Char) :
    afterSeparator ('=' :: escapeValue s) = escapeValue s := by
  have hstart : (escapeValue s).dropWhile isGap = escapeValue s := by
    cases s with
    | nil => rfl
    | cons c s => exact ((escapeSpaceToo_written c).head (escapeSpaceToo_ne_space c) _).1
  exact hstart

/-- The line of an entry, without its end. -/
def entryLine (entry : String × String) : List Char :=
  escapeKey entry.1.toList ++ '=' :: escapeValue entry.2.toList

theorem readLine_entryLine (entry : String × String) :
    readLine (entryLine entry) = some entry := by
  obtain ⟨key, value⟩ := entry
  rw [readLine, entryLine, splitKey_escapeKey, afterSeparator_escapeValue,
    (escapeKey_written _).readText_eq, (escapeValue_written _).readText_eq]
  simp

theorem entryLine_head (entry : String × String) :
    (entryLine entry).dropWhile isGap = entryLine entry ∧ isIdle (entryLine entry) = false := by
  unfold entryLine
  cases entry.1.toList with
  | nil => exact ⟨rfl, rfl⟩
  | cons c s =>
      rw [escapeKey, List.flatMap_cons, List.append_assoc]
      exact (escapeSpaceToo_written c).head (escapeSpaceToo_ne_space c) _

theorem isOpen_entryLine (entry : String × String) : isOpen (entryLine entry) = false := by
  have hfront : isOpen (escapeKey entry.1.toList ++ ['=']) = false :=
    isOpen_of_getLast (by decide)
  rw [entryLine, List.append_cons]
  exact (escapeValue_written _).isOpen_append hfront

theorem entryLine_staysOnLine (entry : String × String) :
    ∀ c ∈ entryLine entry, c ≠ '\n' ∧ c ≠ '\r' := by
  rw [entryLine, List.forall_mem_append, List.forall_mem_cons]
  exact ⟨(escapeKey_written _).staysOnLine, by decide, (escapeValue_written _).staysOnLine⟩

theorem logicalLines_writeEntries (entries : List (String × String)) :
    logicalLines none (naturalLines (writeEntries entries)) = entries.map entryLine := by
  induction entries with
  | nil => rfl
  | cons entry entries ih =>
      have hwrite : writeEntries (entry :: entries) =
          entryLine entry ++ '\n' :: writeEntries entries := by
        simp [writeEntries, writeEntry, entryLine]
      -- The line of the entry is neither a comment nor open, so it is read before the others.
      obtain ⟨hgap, hidle⟩ := entryLine_head entry
      rw [hwrite, naturalLines_append (entryLine_staysOnLine entry),
        logicalLines_cons hgap hidle (isOpen_entryLine entry), ih, List.map_cons]

theorem read_render {sheet : OutputSheet} {date : String}
    (h : Time.Timestamp.StaysOnLine date) :
    read (sheet.render date) = some sheet.entries := by
  have hhead : ∀ c ∈ '#' :: date.toList, c ≠ '\n' ∧ c ≠ '\r' := by
    rw [List.forall_mem_cons]
    exact ⟨by decide, h⟩
  have hreads (entries : List (String × String)) :
      (entries.map entryLine).mapM readLine = some entries := by
    induction entries with
    | nil => rfl
    | cons entry entries ih =>
        rw [List.map_cons, List.mapM_cons, readLine_entryLine, ih]
        rfl
  rw [PropertyFile.read, render, String.toList_ofList, naturalLines_append hhead,
    logicalLines_of_idle rfl, logicalLines_writeEntries, hreads]

/-- The sheet got by setting properties one after another. -/
def ofSets (sets : List (String × String)) : OutputSheet :=
  sets.foldl (fun sheet set => sheet.insert set.1 set.2) .empty

theorem table_ofSets (sets : List (String × String)) : (ofSets sets).table = .ofList sets := by
  have hfold (sheet : OutputSheet) : (sets.foldl (fun sheet set => sheet.insert set.1 set.2)
      sheet).table = sheet.table.insertAll sets := by
    induction sets generalizing sheet with
    | nil => rfl
    | cons set sets ih => exact ih _
  exact hfold .empty

/-- The file of a sheet gives every key that was set once, in the order in which the keys were
first set, with the value that it was given last. -/
theorem read_render_ofSets (sets : List (String × String)) (time : Time.Timestamp) :
    ∃ entries, read ((ofSets sets).render time.longDate) = some entries ∧
      entries = (ofSets sets).entries ∧
      entries.map Prod.fst = (sets.map Prod.fst).eraseDups ∧
      ∀ key value, (key, value) ∈ entries ↔ sets.reverse.lookup key = some value := by
  refine ⟨(ofSets sets).entries, read_render time.staysOnLine_longDate, rfl, ?_, ?_⟩
  · rw [entries, table_ofSets]
    exact Table.keys_ofList sets
  · intro key value
    rw [entries, table_ofSets, Table.mem_entries_iff, Table.get?_ofList]

end OutputSheet

end ActionLauncher
