import ActionLauncher.OutputSheet

/-!
The rules by which property files are read.  The text is cut into lines, and lines that end in an
odd number of backslashes go on in the next one; each of what this gives has a key, a separator
and a value, with escapes that stand for UTF-16 units.
-/

namespace ActionLauncher.PropertyFile

def isGap (c : Char) : Bool :=
  c == ' ' || c == '\t' || c == '\x0c'

/-- The lines of a text: each ends at a line feed, a carriage return, or the two of them. -/
def naturalLines : List Char → List (List Char)
  | [] => [[]]
  | '\r' :: '\n' :: rest => [] :: naturalLines rest
  | c :: rest =>
      if c = '\n' ∨ c = '\r' then [] :: naturalLines rest
      else match naturalLines rest with
        | [] => [[c]]
        | line :: lines => (c :: line) :: lines

/-- Whether a line goes on in the next one. -/
def isOpen (line : List Char) : Bool :=
  (line.reverse.takeWhile (· == '\\')).length % 2 == 1

/-- Whether a line, without the gap before it, is empty or a comment. -/
def isIdle : List Char → Bool
  | [] => true
  | c :: _ => c == '#' || c == '!'

/-- The lines that hold a key and a value, each with the lines in which it goes on; the first
argument is what an open line before these has brought. -/
def logicalLines : Option (List Char) → List (List Char) → List (List Char)
  | none, [] => []
  | some front, [] => [front]
  | front, line :: rest =>
      let text := line.dropWhile isGap
      if front = none ∧ isIdle text = true then logicalLines none rest
      else
        let whole := front.getD [] ++ text
        if isOpen text then logicalLines (some whole.dropLast) rest
        else whole :: logicalLines none rest

def isSeparator (c : Char) : Bool :=
  c == '=' || c == ':'

/-- The key of a line as it is written, and what follows it: it ends before the first separator
or gap that no backslash precedes. -/
def splitKey : List Char → List Char × List Char
  | [] => ([], [])
  | '\\' :: c :: rest => ('\\' :: c :: (splitKey rest).1, (splitKey rest).2)
  | c :: rest =>
      if isSeparator c || isGap c then ([], c :: rest)
      else (c :: (splitKey rest).1, (splitKey rest).2)

/-- What follows the key without one separator and the gaps around it. -/
def afterSeparator (s : List Char) : List Char :=
  match s.dropWhile isGap with
  | [] => []
  | c :: rest => if isSeparator c then rest.dropWhile isGap else c :: rest

/-- The character that a character after a backslash stands for. -/
def escapee (c : Char) : Char :=
  if c = 't' then '\t'
  else if c = 'n' then '\n'
  else if c = 'r' then '\r'
  else if c = 'f' then '\x0c'
  else c

/-- The UTF-16 units of a written key or value; the escape of a unit has four digits. -/
def unescape : List Char → Option (List Nat)
  | [] => some []
  | '\\' :: 'u' :: a :: b :: c :: d :: rest =>
      (Text.digitsValue? 16 0 [a, b, c, d]).bind fun unit => (unescape rest).map (unit :: ·)
  | '\\' :: 'u' :: _ => none
  | '\\' :: c :: rest => (unescape rest).map (OutputSheet.units (escapee c) ++ ·)
  | c :: rest => (unescape rest).map (OutputSheet.units c ++ ·)

def isHighSurrogate (unit : Nat) : Bool :=
  0xD800 ≤ unit && unit < 0xDC00

def isLowSurrogate (unit : Nat) : Bool :=
  0xDC00 ≤ unit && unit < 0xE000

def ofPair (high low : Nat) : Char :=
  Char.ofNat (0x10000 + (high - 0xD800) * 0x400 + (low - 0xDC00))

/-- The text of UTF-16 units, absent where a surrogate has no partner. -/
def ofUnits? : List Nat → Option (List Char)
  | [] => some []
  | [unit] =>
      if isHighSurrogate unit || isLowSurrogate unit then none else some [Char.ofNat unit]
  | unit :: next :: rest =>
      if isHighSurrogate unit then
        if isLowSurrogate next then (ofUnits? rest).map (ofPair unit next :: ·) else none
      else if isLowSurrogate unit then none
      else (ofUnits? (next :: rest)).map (Char.ofNat unit :: ·)

/-- The text of a written key or value. -/
def readText (s : List Char) : Option String :=
  ((unescape s).bind ofUnits?).map String.ofList

def readLine (line : List Char) : Option (String × String) :=
  (readText (splitKey line).1).bind fun key =>
    (readText (afterSeparator (splitKey line).2)).map fun value => (key, value)

/-- The entries of a property file in the order of its lines, absent where an escape is ill
formed. -/
def read (text : String) : Option (List (String × String)) :=
  (logicalLines none (naturalLines text.toList)).mapM readLine

theorem naturalLines_append {line : List Char} (h : ∀ c ∈ line, c ≠ '\n' ∧ c ≠ '\r')
    (rest : List Char) : naturalLines (line ++ '\n' :: rest) = line :: naturalLines rest := by
  induction line with
  | nil => simp [naturalLines]
  | cons c line ih =>
      rw [List.forall_mem_cons] at h
      rw [List.cons_append, naturalLines, ih h.2]
      · simp [h.1]
      · rintro rest rfl
        exact absurd rfl h.1.2

theorem isOpen_of_getLast {front : List Char} {c : Char} (h : c ≠ '\\') :
    isOpen (front ++ [c]) = false := by
  simp [isOpen, h]

theorem isOpen_append_backslashes (front : List Char) :
    isOpen (front ++ ['\\', '\\']) = isOpen front := by
  simp [isOpen, Nat.add_assoc]

theorem logicalLines_cons {line : List Char} (hgap : line.dropWhile isGap = line)
    (hidle : isIdle line = false) (hopen : isOpen line = false) (rest : List (List Char)) :
    logicalLines none (line :: rest) = line :: logicalLines none rest := by
  simp [logicalLines, hgap, hidle, hopen]

theorem logicalLines_of_idle {line : List Char} (h : isIdle (line.dropWhile isGap) = true)
    (rest : List (List Char)) : logicalLines none (line :: rest) = logicalLines none rest := by
  simp [logicalLines, h]

theorem splitKey_plain {c : Char} (hslash : c ≠ '\\') (hends : (isSeparator c || isGap c) = false)
    (rest : List Char) :
    splitKey (c :: rest) = (c :: (splitKey rest).1, (splitKey rest).2) := by
  rw [splitKey, hends]
  · rfl
  · rintro d rest rfl
    exact absurd rfl hslash

theorem unescape_plain {c : Char} (h : c ≠ '\\') (rest : List Char) :
    unescape (c :: rest) = (unescape rest).map (OutputSheet.units c ++ ·) := by
  rw [unescape]
  all_goals
    intros
    simp_all

theorem unescape_escape {c : Char} (h : c ≠ 'u') (rest : List Char) :
    unescape ('\\' :: c :: rest) =
      (unescape rest).map (OutputSheet.units (escapee c) ++ ·) := by
  rw [unescape]
  all_goals
    intros
    simp_all

theorem ofUnits?_units_append (c : Char) (rest : List Nat) :
    ofUnits? (OutputSheet.units c ++ rest) = (ofUnits? rest).map (c :: ·) := by
  have hvalid : c.toNat < 0xD800 ∨ 0xDFFF < c.toNat ∧ c.toNat < 0x110000 := c.valid
  unfold OutputSheet.units
  dsimp only
  split
  · rename_i hsmall
    have hhigh : isHighSurrogate c.toNat = false := by
      simp only [isHighSurrogate, Bool.and_eq_false_iff, decide_eq_false_iff_not]
      omega
    have hlow : isLowSurrogate c.toNat = false := by
      simp only [isLowSurrogate, Bool.and_eq_false_iff, decide_eq_false_iff_not]
      omega
    cases rest with
    | nil => simp [ofUnits?, hhigh, hlow, Char.ofNat_toNat]
    | cons next rest => simp [ofUnits?, hhigh, hlow, Char.ofNat_toNat]
  · rename_i hlarge
    have hhigh : isHighSurrogate (0xD800 + (c.toNat - 0x10000) / 0x400) = true := by
      simp only [isHighSurrogate, Bool.and_eq_true, decide_eq_true_eq]
      omega
    have hlow : isLowSurrogate (0xDC00 + (c.toNat - 0x10000) % 0x400) = true := by
      simp only [isLowSurrogate, Bool.and_eq_true, decide_eq_true_eq]
      omega
    have hpair : ofPair (0xD800 + (c.toNat - 0x10000) / 0x400)
        (0xDC00 + (c.toNat - 0x10000) % 0x400) = c := by
      unfold ofPair
      rw [show 0x10000 + (0xD800 + (c.toNat - 0x10000) / 0x400 - 0xD800) * 0x400 +
        (0xDC00 + (c.toNat - 0x10000) % 0x400 - 0xDC00) = c.toNat by omega]
      exact Char.ofNat_toNat c
    simp [ofUnits?, hhigh, hlow, hpair]

theorem ofUnits?_units (s : List Char) : ofUnits? (s.flatMap OutputSheet.units) = some s := by
  induction s with
  | nil => rfl
  | cons c s ih => rw [List.flatMap_cons, ofUnits?_units_append, ih, Option.map_some]

end ActionLauncher.PropertyFile
