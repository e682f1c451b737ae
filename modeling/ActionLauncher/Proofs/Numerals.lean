import Mathlib.Algebra.Group.Nat.Defs
import Mathlib.Data.List.Induction
import Mathlib.Tactic.SplitIfs
import ActionLauncher.Text.Digits

namespace ActionLauncher.Text

variable {radix : Nat} {c : Char} {s : List Char}

/-- The character is a digit of the given value, as a letter in either case. -/
structure IsDigit (radix d : Nat) (c : Char) : Prop where
  lt : d < radix
  either : c = lowerDigit d ∨ c = upperDigit d

/-- The text is a numeral of the given number. -/
inductive IsNumeral (radix : Nat) : List Char → Nat → Prop
  | digit {d : Nat} {c : Char} (h : IsDigit radix d c) : IsNumeral radix [c] d
  | append {s : List Char} {n d : Nat} {c : Char} (hs : IsNumeral radix s n)
      (h : IsDigit radix d c) : IsNumeral radix (s ++ [c]) (n * radix + d)

/-- The text is a numeral of the given number, perhaps with a plus sign. -/
def IsUnsigned (radix : Nat) (s : List Char) (n : Nat) : Prop :=
  ∃ digits, (s = digits ∨ s = '+' :: digits) ∧ IsNumeral radix digits n

theorem isDigit_of_digitValue? {d : Nat} (hradix : radix ≤ 16)
    (h : digitValue? radix c = some d) : IsDigit radix d c := by
  have hvalue : d < radix ∧ ((0x30 ≤ c.toNat ∧ c.toNat ≤ 0x39 ∧ d = c.toNat - 0x30) ∨
      (0x61 ≤ c.toNat ∧ c.toNat ≤ 0x7A ∧ d = c.toNat - 0x57) ∨
      (0x41 ≤ c.toNat ∧ c.toNat ≤ 0x5A ∧ d = c.toNat - 0x37)) := by
    simp only [digitValue?, Bool.and_eq_true, decide_eq_true_eq] at h
    split_ifs at h <;> simp only [Option.some.injEq] at h <;> omega
  obtain ⟨hlt, hcode⟩ := hvalue
  refine ⟨hlt, ?_⟩
  rw [← Char.ofNat_toNat c, lowerDigit, upperDigit]
  rcases hcode with ⟨hfrom, hto, hd⟩ | ⟨hfrom, hto, hd⟩ | ⟨hfrom, hto, hd⟩
  · left
    rw [if_pos (by omega)]
    congr 1
    omega
  · left
    rw [if_neg (by omega)]
    congr 1
    omega
  · right
    rw [if_neg (by omega)]
    congr 1
    omega

theorem digitValue?_of_le {d : Nat} (hradix : radix ≤ 16) (hlt : d < radix)
    (h : digitValue? 16 c = some d) : digitValue? radix c = some d := by
  simp only [digitValue?] at h ⊢
  grind

theorem digitValue?_eq_some_iff {d : Nat} (hradix : radix ≤ 16) :
    digitValue? radix c = some d ↔ IsDigit radix d c := by
  constructor
  · exact isDigit_of_digitValue? hradix
  · rintro ⟨hlt, rfl | rfl⟩
    · exact digitValue?_of_le hradix hlt (digitValue?_lowerDigit (by omega))
    · exact digitValue?_of_le hradix hlt (digitValue?_upperDigit (by omega))

theorem IsNumeral.lt_pow {n : Nat} (h : IsNumeral radix s n) : n < radix ^ s.length := by
  induction h with
  | digit h => simpa using h.lt
  | @append s n d c _ h ih =>
      have hd : d < radix := h.lt
      have hle : (n + 1) * radix ≤ radix ^ s.length * radix := Nat.mul_le_mul_right _ ih
      rw [Nat.succ_mul] at hle
      rw [List.length_append, List.length_singleton, Nat.pow_succ]
      omega

theorem digitsValue?_append (radix acc : Nat) (s t : List Char) :
    digitsValue? radix acc (s ++ t) =
      (digitsValue? radix acc s).bind fun value => digitsValue? radix value t := by
  induction s generalizing acc with
  | nil => rfl
  | cons c s ih =>
      rw [List.cons_append, digitsValue?, digitsValue?]
      cases digitValue? radix c with
      | none => rfl
      | some d => exact ih _

theorem digitsValue?_singleton (radix acc : Nat) (c : Char) :
    digitsValue? radix acc [c] = (digitValue? radix c).map (acc * radix + ·) := by
  rw [digitsValue?]
  cases digitValue? radix c <;> rfl

theorem digitsValue?_concat {d acc : Nat} (hradix : radix ≤ 16) (h : IsDigit radix d c) :
    digitsValue? radix acc (s ++ [c]) = (digitsValue? radix acc s).map (· * radix + d) := by
  rw [digitsValue?_append]
  cases digitsValue? radix acc s with
  | none => rfl
  | some n =>
      rw [Option.bind_some, digitsValue?_singleton, (digitValue?_eq_some_iff hradix).2 h]
      rfl

theorem digitsValue?_eq_some_iff {n : Nat} (hradix : radix ≤ 16) :
    s ≠ [] ∧ digitsValue? radix 0 s = some n ↔ IsNumeral radix s n := by
  constructor
  · rintro ⟨hne, hvalue⟩
    induction s using List.reverseRecOn generalizing n with
    | nil => exact absurd rfl hne
    | append_singleton s c ih =>
        rw [digitsValue?_append] at hvalue
        obtain ⟨m, hm, hlast⟩ := Option.bind_eq_some_iff.1 hvalue
        rw [digitsValue?_singleton] at hlast
        obtain ⟨d, hd, rfl⟩ := Option.map_eq_some_iff.1 hlast
        have hdigit := isDigit_of_digitValue? hradix hd
        -- The first digit has nothing in front, and its value is the value so far.
        cases s with
        | nil =>
            cases hm
            simpa using IsNumeral.digit hdigit
        | cons first s => exact .append (ih (List.cons_ne_nil _ _) hm) hdigit
  · intro h
    induction h with
    | digit h =>
        refine ⟨List.cons_ne_nil _ _, ?_⟩
        rw [digitsValue?_singleton, (digitValue?_eq_some_iff hradix).2 h, Option.map_some,
          Nat.zero_mul, Nat.zero_add]
    | append hs h ih =>
        refine ⟨by simp, ?_⟩
        rw [digitsValue?_concat hradix h, ih.2, Option.map_some]

theorem exists_of_mem_fixedDigits (hpos : 0 < radix) {width n : Nat}
    (h : c ∈ fixedDigits radix width n) : ∃ d < radix, lowerDigit d = c := by
  induction width generalizing n with
  | zero => cases h
  | succ width ih =>
      rw [fixedDigits, List.mem_append, List.mem_singleton] at h
      rcases h with h | rfl
      · exact ih h
      · exact ⟨n % radix, Nat.mod_lt n hpos, rfl⟩

theorem digitsValue?_fixedDigits (hradix : radix ≤ 16) (hpos : 0 < radix) (width n : Nat) :
    digitsValue? radix 0 (fixedDigits radix width n) = some (n % Nat.pow radix width) := by
  induction width generalizing n with
  | zero => simp [fixedDigits, digitsValue?, Nat.mod_one]
  | succ width ih =>
      have hdigit : IsDigit radix (n % radix) (lowerDigit (n % radix)) :=
        ⟨Nat.mod_lt n hpos, .inl rfl⟩
      have hvalue : n / radix % Nat.pow radix width * radix + n % radix =
          n % Nat.pow radix (width + 1) := by
        change _ = n % radix ^ (width + 1)
        rw [Nat.pow_succ', Nat.mod_mul, Nat.mul_comm, Nat.add_comm]
        rfl
      rw [fixedDigits, digitsValue?_concat hradix hdigit, ih, Option.map_some, hvalue]

theorem digitsValue?_fixedDigits_of_lt {width n : Nat} (hradix : radix ≤ 16) (hpos : 0 < radix)
    (h : n < Nat.pow radix width) : digitsValue? radix 0 (fixedDigits radix width n) = some n := by
  rw [digitsValue?_fixedDigits hradix hpos, Nat.mod_eq_of_lt h]

theorem digitsValue?_toDigits (n : Nat) : digitsValue? 10 0 (Nat.toDigits 10 n) = some n := by
  have hdigit : ∀ d < 10, Nat.digitChar d = lowerDigit d := by decide
  induction n using Nat.strongRecOn with
  | ind n ih =>
      rcases Nat.lt_or_ge n 10 with hlt | hge
      · have hone : digitsValue? 10 0 ([] ++ [Nat.digitChar n]) =
            (digitsValue? 10 0 []).map (· * 10 + n) :=
          digitsValue?_concat (by decide) ⟨hlt, .inl (hdigit n hlt)⟩
        rw [Nat.toDigits_of_lt_base hlt]
        simpa [digitsValue?] using hone
      · have hlast : n % 10 < 10 := Nat.mod_lt n (by decide)
        have hvalue : n / 10 * 10 + n % 10 = n := Nat.div_add_mod' n 10
        rw [Nat.toDigits_of_base_le (by decide) hge,
          digitsValue?_concat (by decide) ⟨hlast, .inl (hdigit _ hlast)⟩, ih (n / 10) (by omega),
          Option.map_some, hvalue]

theorem isDecimal_of_mem_toDigits {n : Nat} (h : c ∈ Nat.toDigits 10 n) : isDecimal c = true := by
  have hdigit := Nat.isDigit_of_mem_toDigits (by decide) (by decide) h
  simpa [isDecimal, Char.isDigit, Char.le_def] using hdigit

/-- A decimal numeral starts with a zero only when it is one. -/
theorem head?_toDigits {n : Nat} (h : n ≠ 0) : (Nat.toDigits 10 n).head? ≠ some '0' := by
  have hdigit : ∀ d < 10, d ≠ 0 → Nat.digitChar d ≠ '0' := by decide
  induction n using Nat.strongRecOn with
  | ind n ih =>
      rcases Nat.lt_or_ge n 10 with hlt | hge
      · rw [Nat.toDigits_of_lt_base hlt]
        simpa using hdigit n hlt h
      · have hfirst := ih (n / 10) (by omega) (by omega)
        have hsome := List.isSome_head?.2 (Nat.toDigits_ne_nil (b := 10) (n := n / 10))
        rw [Nat.toDigits_of_base_le (by decide) hge, List.head?_append, Option.or_of_isSome hsome]
        exact hfirst

theorem IsNumeral.not_mem {n : Nat} (hradix : radix ≤ 16) (hs : IsNumeral radix s n)
    (h : digitValue? radix c = none) : c ∉ s := by
  have hother {d : Nat} {e : Char} (he : IsDigit radix d e) : c ≠ e := by
    rintro rfl
    rw [(digitValue?_eq_some_iff hradix).2 he] at h
    cases h
  induction hs with
  | digit hd => simpa using hother hd
  | append _ hd ih => simpa using ⟨ih, hother hd⟩

theorem readDigits_eq_some_iff {limit n : Nat} (hradix : radix ≤ 16) :
    (if s.isEmpty then none else (digitsValue? radix 0 s).filter (· < limit)) = some n ↔
      n < limit ∧ IsNumeral radix s n := by
  rw [← digitsValue?_eq_some_iff hradix]
  cases s with
  | nil => simp
  | cons c s => simp [Option.filter_eq_some_iff, and_comm]

theorem readUnsigned?_eq_some_iff {limit n : Nat} (hradix : radix ≤ 16) :
    readUnsigned? radix limit s = some n ↔ n < limit ∧ IsUnsigned radix s n := by
  have hplus : digitValue? radix '+' = none := by
    simp [digitValue?]
  have hsigned (rest : List Char) : ¬ IsNumeral radix ('+' :: rest) n := fun h =>
    h.not_mem hradix hplus List.mem_cons_self
  -- With the sign the numeral is what follows it, and without it the whole text.
  by_cases hsign : ∃ rest, s = '+' :: rest
  · obtain ⟨rest, rfl⟩ := hsign
    refine (readDigits_eq_some_iff hradix).trans (and_congr_right fun _ => ?_)
    constructor
    · intro h
      exact ⟨rest, .inr rfl, h⟩
    · rintro ⟨digits, rfl | heq, h⟩
      · exact absurd h (hsigned rest)
      · cases heq
        exact h
  · have hread : readUnsigned? radix limit s =
        if s.isEmpty then none else (digitsValue? radix 0 s).filter (· < limit) := by
      unfold readUnsigned?
      split
      · exact absurd ⟨_, rfl⟩ hsign
      · rfl
    rw [hread]
    refine (readDigits_eq_some_iff hradix).trans (and_congr_right fun _ => ?_)
    constructor
    · intro h
      exact ⟨s, .inl rfl, h⟩
    · rintro ⟨digits, rfl | heq, h⟩
      · exact h
      · exact absurd ⟨digits, heq⟩ hsign

theorem IsUnsigned.not_mem {n : Nat} (hradix : radix ≤ 16) (hs : IsUnsigned radix s n)
    (hsign : c ≠ '+') (h : digitValue? radix c = none) : c ∉ s := by
  obtain ⟨digits, rfl | rfl, hnumeral⟩ := hs
  · exact hnumeral.not_mem hradix h
  · simpa [hsign] using hnumeral.not_mem hradix h

end ActionLauncher.Text
