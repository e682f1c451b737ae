/-!
How large a decimal number is in double precision.  The leading digits that fit in 64 bits and the
power of ten behind them are rounded to 53 significant bits each, and their product must not round
beyond the largest number of double precision.
-/

namespace ActionLauncher.Json

/-- The nearest multiple of `unit`, counted in units; a half goes to the even neighbour. -/
def nearestMultiple (unit n : Nat) : Nat :=
  let below := n / unit
  let rest := n % unit
  if 2 * rest < unit ∨ (2 * rest = unit ∧ below % 2 = 0) then below else below + 1

/-- The nearest number of at most 53 significant bits; a half goes to the even neighbour. -/
def roundedTo53 (n : Nat) : Nat :=
  let unit := Nat.pow 2 (Nat.log2 n + 1 - 53)
  nearestMultiple unit n * unit

theorem roundedTo53_of_log2_lt {n : Nat} (h : Nat.log2 n < 53) : roundedTo53 n = n := by
  have hunit : Nat.log2 n + 1 - 53 = 0 := by omega
  simp only [roundedTo53, nearestMultiple, hunit]
  simp [Nat.mod_one]

/-- The leading decimal digits of a number, as many as fit in 64 bits, and how many follow. -/
def leadingDigits (n : Nat) : Nat × Nat :=
  if n < 18446744073709551616 then (n, 0)
  else
    let (digits, more) := leadingDigits (n / 10)
    (digits, more + 1)

theorem leadingDigits_lt (n : Nat) : (leadingDigits n).1 < 18446744073709551616 := by
  fun_induction leadingDigits n with
  | case1 n h => exact h
  | case2 n h digits more heq ih => simpa [heq] using ih

theorem leadingDigits_eq_div (n : Nat) :
    (leadingDigits n).1 = n / Nat.pow 10 (leadingDigits n).2 := by
  fun_induction leadingDigits n with
  | case1 n h => exact (Nat.div_one n).symm
  | case2 n h digits more heq ih =>
      simp only [heq] at ih
      change digits = n / (Nat.pow 10 more * 10)
      rw [Nat.mul_comm, ← Nat.div_div_eq_div_mul, ← ih]

/-- The largest power of ten in double precision. -/
def maxDecimalExponent : Nat := 308

/-- The first magnitude that rounds beyond the largest number of double precision. -/
def doubleBound : Nat :=
  Nat.pow 2 1024 - Nat.pow 2 970

/-- Whether `digits * 10 ^ scale` is too large for double precision. -/
def tooLarge (digits : Nat) (scale : Int) : Bool :=
  let (leading, more) := leadingDigits digits
  let exponent := scale + more
  if leading = 0 ∨ exponent < 0 then false
  else if maxDecimalExponent < exponent then true
  else doubleBound ≤ roundedTo53 leading * roundedTo53 (Nat.pow 10 exponent.toNat)

end ActionLauncher.Json
