namespace ActionLauncher.Text

/-- The digits up to sixteen, letters in lower case. -/
def lowerDigit (d : Nat) : Char :=
  if d < 10 then Char.ofNat (0x30 + d) else Char.ofNat (0x57 + d)

/-- The digits up to sixteen, letters in upper case. -/
def upperDigit (d : Nat) : Char :=
  if d < 10 then Char.ofNat (0x30 + d) else Char.ofNat (0x37 + d)

/-- The value of a digit in the given radix, letters in either case. -/
def digitValue? (radix : Nat) (c : Char) : Option Nat :=
  let n := c.toNat
  let value :=
    if 0x30 ≤ n && n ≤ 0x39 then n - 0x30
    else if 0x61 ≤ n && n ≤ 0x7A then n - 0x57
    else if 0x41 ≤ n && n ≤ 0x5A then n - 0x37
    else radix
  if value < radix then some value else none

theorem digitValue?_lowerDigit {d : Nat} (h : d < 16) :
    digitValue? 16 (lowerDigit d) = some d := by
  have hall : ∀ e ∈ List.range 16, digitValue? 16 (lowerDigit e) = some e := by decide
  exact hall d (List.mem_range.mpr h)

theorem digitValue?_upperDigit {d : Nat} (h : d < 16) :
    digitValue? 16 (upperDigit d) = some d := by
  have hall : ∀ e ∈ List.range 16, digitValue? 16 (upperDigit e) = some e := by decide
  exact hall d (List.mem_range.mpr h)

/-- The value of a run of digits after the value `acc`, absent when one is no digit. -/
def digitsValue? (radix : Nat) : Nat → List Char → Option Nat
  | acc, [] => some acc
  | acc, c :: rest =>
      match digitValue? radix c with
      | some d => digitsValue? radix (acc * radix + d) rest
      | none => none

/-- Reads an unsigned numeral below `limit`: at most one plus sign, then at least one digit and
nothing else. -/
def readUnsigned? (radix limit : Nat) (s : List Char) : Option Nat :=
  let digits := match s with
    | '+' :: rest => rest
    | _ => s
  if digits.isEmpty then none
  else (digitsValue? radix 0 digits).filter (· < limit)

/-- The last `width` digits of `n`, in lower case. -/
def fixedDigits (radix : Nat) : (width : Nat) → Nat → List Char
  | 0, _ => []
  | width + 1, n => fixedDigits radix width (n / radix) ++ [lowerDigit (n % radix)]

/-- The last `width` hexadecimal digits of `n`, in upper case. -/
def fixedUpperHex : (width : Nat) → Nat → List Char
  | 0, _ => []
  | width + 1, n => fixedUpperHex width (n / 16) ++ [upperDigit (n % 16)]

@[simp] theorem fixedDigits_length (radix width n : Nat) :
    (fixedDigits radix width n).length = width := by
  induction width generalizing n with
  | zero => rfl
  | succ width ih => simp [fixedDigits, ih]

def isDecimal (c : Char) : Bool :=
  '0' ≤ c && c ≤ '9'

/-- The decimal numeral of `n`, without leading zeros. -/
def decimal (n : Nat) : String :=
  String.ofList (Nat.toDigits 10 n)

end ActionLauncher.Text
