namespace ActionLauncher.Text

/-- The characters with the Unicode property `White_Space`. -/
def isWhite (c : Char) : Bool :=
  let n := c.toNat
  (0x9 ≤ n && n ≤ 0xD) || n == 0x20 || n == 0x85 || n == 0xA0 || n == 0x1680 ||
    (0x2000 ≤ n && n ≤ 0x200A) || n == 0x2028 || n == 0x2029 || n == 0x202F ||
    n == 0x205F || n == 0x3000

theorem isWhite_of_isWhitespace {c : Char} (h : c.isWhitespace = true) : isWhite c = true := by
  simp only [Char.isWhitespace, Bool.or_eq_true, decide_eq_true_eq] at h
  rcases h with ((h | h) | h) | h <;> subst h <;> decide

namespace Chars

/-- The text without its leading white space. -/
def trimStart (s : List Char) : List Char :=
  s.dropWhile isWhite

/-- The text without its trailing white space. -/
def trimEnd (s : List Char) : List Char :=
  (s.reverse.dropWhile isWhite).reverse

/-- The text without white space at either end. -/
def trim (s : List Char) : List Char :=
  trimEnd (trimStart s)

def isBlank (s : List Char) : Bool :=
  s.all isWhite

end Chars

/-- The text without white space at either end. -/
def trim (s : String) : String :=
  String.ofList (Chars.trim s.toList)

/-- A text of white space only, the empty text included. -/
def isBlank (s : String) : Bool :=
  Chars.isBlank s.toList

def nonBlank? (s : Option String) : Option String :=
  s.filter fun t => !isBlank t

/-- A blank text counts as absent, any other is trimmed. -/
def trimmed? (s : Option String) : Option String :=
  (nonBlank? s).map trim

theorem nonBlank?_eq_some_iff {s : Option String} {t : String} :
    nonBlank? s = some t ↔ s = some t ∧ isBlank t = false := by
  simp [nonBlank?, Option.filter_eq_some_iff]

end ActionLauncher.Text
