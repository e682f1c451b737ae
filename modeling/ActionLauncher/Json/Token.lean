import ActionLauncher.Json.Value
import ActionLauncher.Text.Digits

namespace ActionLauncher.Json

inductive Token
  | openObject
  | closeObject
  | openArray
  | closeArray
  | comma
  | colon
  | value (v : Json)
  | quoted (s : Option String)

namespace Token

def isSpace (c : Char) : Bool :=
  c == ' ' || c == '\n' || c == '\t' || c == '\r'

/-- A reader of the front of a text: what it found, and the rest, which is no longer. -/
abbrev Found (α : Type) (s : List Char) : Type :=
  Option (α × { rest : List Char // rest.length ≤ s.length })

def unit? (a b c d : Char) : Option Nat :=
  Text.digitsValue? 16 0 [a, b, c, d]

/-- The character of an escape of one letter. -/
def simpleEscape? (c : Char) : Option Char :=
  if c = '"' then some '"'
  else if c = '\\' then some '\\'
  else if c = '/' then some '/'
  else if c = 'b' then some '\x08'
  else if c = 'f' then some '\x0c'
  else if c = 'n' then some '\n'
  else if c = 'r' then some '\r'
  else if c = 't' then some '\t'
  else none

/-- The first half of a surrogate pair. -/
def isHigh (unit : Nat) : Bool :=
  0xD800 ≤ unit && unit < 0xDC00

/-- The second half of a surrogate pair. -/
def isLow (unit : Nat) : Bool :=
  0xDC00 ≤ unit && unit < 0xE000

def joinPair (high low : Nat) : Char :=
  Char.ofNat (0x10000 + (high - 0xD800) * 0x400 + (low - 0xDC00))

/-- A piece of a quoted text: a character, or a unit of an escape with four digits. -/
inductive Piece
  | char (c : Char)
  | unit (n : Nat)

/-- The characters of some pieces, absent where a surrogate stands alone. -/
def joinPieces? : List Piece → Option (List Char)
  | [] => some []
  | .char c :: rest => (joinPieces? rest).map (c :: ·)
  | .unit n :: rest =>
      if isHigh n then
        match rest with
        | .unit m :: rest' =>
            if isLow m then (joinPieces? rest').map (joinPair n m :: ·) else none
        | _ => none
      else if isLow n then none
      else (joinPieces? rest).map (Char.ofNat n :: ·)

/-- Reads the pieces of a quoted text up to its closing quote. -/
def pieces? : (s : List Char) → Option (List Piece × List Char)
  | [] => none
  | '"' :: rest => some ([], rest)
  | '\\' :: 'u' :: a :: b :: c :: d :: rest =>
      match unit? a b c d with
      | none => none
      | some n => (pieces? rest).map fun (pieces, rest) => (.unit n :: pieces, rest)
  | '\\' :: c :: rest =>
      match simpleEscape? c with
      | none => none
      | some e => (pieces? rest).map fun (pieces, rest) => (.char e :: pieces, rest)
  | c :: rest =>
      if c = '\\' ∨ c.toNat < 0x20 then none
      else (pieces? rest).map fun (pieces, rest) => (.char c :: pieces, rest)

theorem length_of_pieces? {s : List Char} {pieces : List Piece} {rest : List Char}
    (h : pieces? s = some (pieces, rest)) : rest.length ≤ s.length := by
  fun_induction pieces? s generalizing pieces rest with
  | case1 => simp at h
  | case2 => simp_all
  | case3 => simp at h
  | case4 a b c d tail n hn ih =>
      obtain ⟨⟨p, r⟩, hread, heq⟩ := Option.map_eq_some_iff.1 h
      obtain ⟨-, rfl⟩ := Prod.mk.inj heq
      have := ih hread
      simp only [List.length_cons]
      omega
  | case5 => simp at h
  | case6 c tail _ e he ih =>
      obtain ⟨⟨p, r⟩, hread, heq⟩ := Option.map_eq_some_iff.1 h
      obtain ⟨-, rfl⟩ := Prod.mk.inj heq
      have := ih hread
      simp only [List.length_cons]
      omega
  | case7 => simp at h
  | case8 c tail _ _ _ hc ih =>
      obtain ⟨⟨p, r⟩, hread, heq⟩ := Option.map_eq_some_iff.1 h
      obtain ⟨-, rfl⟩ := Prod.mk.inj heq
      have := ih hread
      simp only [List.length_cons]
      omega

/-- The decimal digits in front of a text, and the rest. -/
def digits (s : List Char) : List Char × List Char :=
  (s.takeWhile Text.isDecimal, s.dropWhile Text.isDecimal)

theorem length_digits_le (s : List Char) : (digits s).2.length ≤ s.length :=
  (List.dropWhile_sublist _).length_le

def number (s : List Char) : Nat :=
  (Text.digitsValue? 10 0 s).getD 0

/-- Reads the whole part of a number: a zero alone, or digits that start with none. -/
def whole? (s : List Char) : Found (List Char) s :=
  match s with
  | '0' :: rest => some (['0'], ⟨rest, by simp⟩)
  | s =>
      if (digits s).1.isEmpty then none
      else some ((digits s).1, ⟨(digits s).2, length_digits_le s⟩)

/-- Reads an optional fraction, with at least one digit. -/
def fraction? (s : List Char) : Found (List Char) s :=
  match s with
  | '.' :: rest =>
      if (digits rest).1.isEmpty then none
      else some ((digits rest).1, ⟨(digits rest).2, Nat.le_succ_of_le (length_digits_le rest)⟩)
  | s => some ([], ⟨s, Nat.le_refl _⟩)

/-- Reads an optional exponent, with at least one digit. -/
def exponent? (s : List Char) : Found (Option Int) s :=
  match s with
  | c :: rest =>
      if c = 'e' ∨ c = 'E' then
        match rest with
        | '-' :: rest' =>
            if (digits rest').1.isEmpty then none
            else some (some (-(number (digits rest').1 : Int)), ⟨(digits rest').2, by
              have := length_digits_le rest'; simp only [List.length_cons]; omega⟩)
        | '+' :: rest' =>
            if (digits rest').1.isEmpty then none
            else some (some (number (digits rest').1 : Int), ⟨(digits rest').2, by
              have := length_digits_le rest'; simp only [List.length_cons]; omega⟩)
        | rest =>
            if (digits rest).1.isEmpty then none
            else some (some (number (digits rest).1 : Int), ⟨(digits rest).2,
              Nat.le_succ_of_le (length_digits_le rest)⟩)
      else some (none, ⟨c :: rest, Nat.le_refl _⟩)
  | [] => some (none, ⟨[], Nat.le_refl _⟩)

/-- The value of a number.  An integer is written without fraction and exponent and is not minus
zero. -/
def assemble (negative : Bool) (whole fraction : List Char) (exponent : Option Int) : Json :=
  if fraction.isEmpty ∧ exponent = none ∧ ¬ (negative ∧ number whole = 0) then
    .integer (if negative then -(number whole : Int) else number whole)
  else .real ⟨negative, number (whole ++ fraction), exponent.getD 0 - fraction.length⟩

def unsigned? (negative : Bool) (s : List Char) : Found Json s :=
  match whole? s with
  | none => none
  | some (whole, ⟨s₁, h₁⟩) =>
      match fraction? s₁ with
      | none => none
      | some (fraction, ⟨s₂, h₂⟩) =>
          match exponent? s₂ with
          | none => none
          | some (exponent, ⟨s₃, h₃⟩) =>
              some (assemble negative whole fraction exponent,
                ⟨s₃, Nat.le_trans h₃ (Nat.le_trans h₂ h₁)⟩)

/-- Reads the token that the character `c` starts; a token takes at least one character. -/
def next? (c : Char) (rest : List Char) : Found Token rest :=
  if c = '\x7b' then some (.openObject, ⟨rest, Nat.le_refl _⟩)
  else if c = '\x7d' then some (.closeObject, ⟨rest, Nat.le_refl _⟩)
  else if c = '[' then some (.openArray, ⟨rest, Nat.le_refl _⟩)
  else if c = ']' then some (.closeArray, ⟨rest, Nat.le_refl _⟩)
  else if c = ',' then some (.comma, ⟨rest, Nat.le_refl _⟩)
  else if c = ':' then some (.colon, ⟨rest, Nat.le_refl _⟩)
  else if c = '"' then
    match h : pieces? rest with
    | some (pieces, r) =>
        some (.quoted ((joinPieces? pieces).map String.ofList), ⟨r, length_of_pieces? h⟩)
    | none => none
  else if c = 'n' then literal? ['u', 'l', 'l'] .null rest
  else if c = 't' then literal? ['r', 'u', 'e'] (.bool true) rest
  else if c = 'f' then literal? ['a', 'l', 's', 'e'] (.bool false) rest
  else if c = '-' then (unsigned? true rest).map fun (v, r) => (.value v, r)
  else if Text.isDecimal c then
    match unsigned? false (c :: rest) with
    | some (v, ⟨r, _⟩) =>
        if h : r.length ≤ rest.length then some (.value v, ⟨r, h⟩) else none
    | none => none
  else none
where
  /-- Reads the rest of a word that stands for a value. -/
  literal? (word : List Char) (v : Json) (rest : List Char) : Found Token rest :=
    if word <+: rest then
      some (.value v, ⟨rest.drop word.length, by simp⟩)
    else none

/-- The tokens of a text, absent when it has some other part. -/
def scan? : List Char → Option (List Token)
  | [] => some []
  | c :: rest =>
      if isSpace c then scan? rest
      else match next? c rest with
        | none => none
        | some (token, ⟨r, _⟩) => (scan? r).map (token :: ·)
  termination_by s => s.length

end Token

end ActionLauncher.Json
