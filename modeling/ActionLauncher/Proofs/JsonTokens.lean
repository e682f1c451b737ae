import ActionLauncher.Proofs.JsonSpelling

namespace ActionLauncher.Json.Token

variable {α : Type} {c : Char} {s rest : List Char}

/-- What a reader found and the rest of its text, without the bound on the rest. -/
def bare (found : Found α s) : Option (α × List Char) :=
  found.map fun (a, rest) => (a, rest.1)

theorem exists_of_bare {found : Found α s} {a : α} (h : bare found = some (a, rest)) :
    ∃ hle, found = some (a, ⟨rest, hle⟩) := by
  obtain ⟨⟨b, r, hle⟩, rfl, heq⟩ := Option.map_eq_some_iff.1 h
  cases heq
  exact ⟨hle, rfl⟩

theorem scan?_of_next? {token : Token} {r : List Char} (hspace : isSpace c = false)
    (h : bare (next? c rest) = some (token, r)) :
    scan? (c :: rest) = (scan? r).map (token :: ·) := by
  obtain ⟨hle, hnext⟩ := exists_of_bare h
  rw [scan?, if_neg (by simp [hspace]), hnext]

/-! ### Marks and words -/

theorem scan?_openObject (rest : List Char) :
    scan? ('\x7b' :: rest) = (scan? rest).map (.openObject :: ·) :=
  scan?_of_next? rfl rfl

theorem scan?_closeObject (rest : List Char) :
    scan? ('\x7d' :: rest) = (scan? rest).map (.closeObject :: ·) :=
  scan?_of_next? rfl rfl

theorem scan?_openArray (rest : List Char) :
    scan? ('[' :: rest) = (scan? rest).map (.openArray :: ·) :=
  scan?_of_next? rfl rfl

theorem scan?_closeArray (rest : List Char) :
    scan? (']' :: rest) = (scan? rest).map (.closeArray :: ·) :=
  scan?_of_next? rfl rfl

theorem scan?_comma (rest : List Char) : scan? (',' :: rest) = (scan? rest).map (.comma :: ·) :=
  scan?_of_next? rfl rfl

theorem scan?_colon (rest : List Char) : scan? (':' :: rest) = (scan? rest).map (.colon :: ·) :=
  scan?_of_next? rfl rfl

theorem scan?_null (rest : List Char) :
    scan? ('n' :: 'u' :: 'l' :: 'l' :: rest) = (scan? rest).map (.value .null :: ·) :=
  scan?_of_next? rfl (by simp [next?, next?.literal?, bare])

theorem scan?_true (rest : List Char) :
    scan? ('t' :: 'r' :: 'u' :: 'e' :: rest) = (scan? rest).map (.value (.bool true) :: ·) :=
  scan?_of_next? rfl (by simp [next?, next?.literal?, bare])

theorem scan?_false (rest : List Char) :
    scan? ('f' :: 'a' :: 'l' :: 's' :: 'e' :: rest) =
      (scan? rest).map (.value (.bool false) :: ·) :=
  scan?_of_next? rfl (by simp [next?, next?.literal?, bare])

/-! ### Texts -/

theorem scan?_quotes {text : String} (h : Quotes text s) (rest : List Char) :
    scan? (s ++ rest) = (scan? rest).map (.quoted (some text) :: ·) := by
  obtain ⟨hw⟩ := h
  rename_i w
  obtain ⟨pieces, hread, hjoin⟩ := hw.pieces?_append rest
  have hnext : bare (next? '"' (w ++ '"' :: rest)) = some (.quoted (some text), rest) := by
    simp only [next?, Char.reduceEq, if_true, if_false]
    split
    · next h =>
        rw [hread] at h
        cases h
        simp [bare, hjoin]
    · next h =>
        rw [hread] at h
        cases h
  rw [List.cons_append, List.append_assoc, List.singleton_append]
  exact scan?_of_next? rfl hnext

theorem scan?_writeText (s : String) (rest : List Char) :
    scan? (writeText s.toList ++ rest) = (scan? rest).map (.quoted (some s) :: ·) :=
  scan?_quotes (quotes_writeText s) rest

/-! ### Numbers -/

/-- The text does not go on with digits. -/
def EndsDigits (rest : List Char) : Prop :=
  ∀ c ∈ rest.head?, Text.isDecimal c = false

/-- The text does not go on with a number. -/
structure EndsNumber (rest : List Char) : Prop where
  digits : EndsDigits rest
  fraction : rest.head? ≠ some '.'
  exponent : ∀ c ∈ rest.head?, ¬ (c = 'e' ∨ c = 'E')

theorem digits_append (hs : ∀ c ∈ s, Text.isDecimal c = true) (hrest : EndsDigits rest) :
    digits (s ++ rest) = (s, rest) := by
  have hstop : rest.takeWhile Text.isDecimal = [] ∧ rest.dropWhile Text.isDecimal = rest := by
    cases rest with
    | nil => exact ⟨rfl, rfl⟩
    | cons c rest => simp [hrest c rfl]
  rw [digits, List.takeWhile_append_of_pos hs, List.dropWhile_append_of_pos hs, hstop.1, hstop.2,
    List.append_nil]

theorem digits_toDigits (n : Nat) (hrest : EndsDigits rest) :
    digits (Nat.toDigits 10 n ++ rest) = (Nat.toDigits 10 n, rest) :=
  digits_append (fun _ => Text.isDecimal_of_mem_toDigits) hrest

theorem number_toDigits (n : Nat) : number (Nat.toDigits 10 n) = n := by
  rw [number, Text.digitsValue?_toDigits, Option.getD_some]

theorem bare_whole? (n : Nat) (hrest : EndsDigits rest) :
    bare (whole? (Nat.toDigits 10 n ++ rest)) = some (Nat.toDigits 10 n, rest) := by
  by_cases hzero : n = 0
  · subst hzero
    rfl
  · have hdigits := digits_toDigits n hrest
    have hfirst := Text.head?_toDigits hzero
    cases hchars : Nat.toDigits 10 n with
    | nil => exact absurd hchars Nat.toDigits_ne_nil
    | cons c s =>
        rw [hchars] at hdigits hfirst
        have hc : c ≠ '0' := by simpa using hfirst
        rw [List.cons_append] at hdigits ⊢
        rw [whole?.eq_2]
        · simp [hdigits, bare]
        · simp [hc]

theorem bare_fraction? (hrest : rest.head? ≠ some '.') :
    bare (fraction? rest) = some ([], rest) := by
  unfold fraction?
  split
  · exact absurd rfl hrest
  · rfl

theorem bare_exponent?_absent (hrest : EndsNumber rest) :
    bare (exponent? rest) = some (none, rest) := by
  cases rest with
  | nil => rfl
  | cons c rest =>
      simp [exponent?, hrest.exponent c rfl, bare]

theorem bare_exponent? (n : Int) (hrest : EndsDigits rest) :
    bare (exponent? ('e' :: (writeInteger n ++ rest))) = some (some n, rest) := by
  generalize hsize : n.natAbs = size
  have hdigits := digits_toDigits size hrest
  have hnumber := number_toDigits size
  have hne : Nat.toDigits 10 size ≠ [] := Nat.toDigits_ne_nil
  by_cases hneg : n < 0
  · have hwritten : writeInteger n ++ rest = '-' :: (Nat.toDigits 10 size ++ rest) := by
      simp [writeInteger, hneg, hsize]
    have hvalue : -(size : Int) = n := by omega
    rw [hwritten]
    simp [exponent?, bare, hdigits, hnumber, hne, hvalue]
  · have hwritten : writeInteger n ++ rest = Nat.toDigits 10 size ++ rest := by
      simp [writeInteger, hneg, hsize]
    have hvalue : (size : Int) = n := by omega
    rw [hwritten]
    -- Without a sign the first character is a digit, which the reader does not take for one.
    cases hchars : Nat.toDigits 10 size with
    | nil => exact absurd hchars hne
    | cons c s =>
        have hc := Text.isDecimal_of_mem_toDigits (hchars ▸ List.mem_cons_self)
        have hsign : c ≠ '-' ∧ c ≠ '+' := by
          constructor <;> rintro rfl <;> simp [Text.isDecimal] at hc
        rw [hchars] at hdigits hnumber
        rw [List.cons_append] at hdigits ⊢
        simp [exponent?, bare, hsign, hdigits, hnumber, hvalue]

theorem bare_unsigned? {whole fraction s₁ s₂ s₃ : List Char} {exponent : Option Int}
    (negative : Bool) (hwhole : bare (whole? s) = some (whole, s₁))
    (hfraction : bare (fraction? s₁) = some (fraction, s₂))
    (hexponent : bare (exponent? s₂) = some (exponent, s₃)) :
    bare (unsigned? negative s) = some (assemble negative whole fraction exponent, s₃) := by
  obtain ⟨h₁, hwhole⟩ := exists_of_bare hwhole
  obtain ⟨h₂, hfraction⟩ := exists_of_bare hfraction
  obtain ⟨h₃, hexponent⟩ := exists_of_bare hexponent
  simp [unsigned?, hwhole, hfraction, hexponent, bare]

theorem scan?_digit {v : Json} {r : List Char} (hc : Text.isDecimal c = true)
    (h : bare (unsigned? false (c :: rest)) = some (v, r)) (hle : r.length ≤ rest.length) :
    scan? (c :: rest) = (scan? r).map (.value v :: ·) := by
  -- No mark and no first letter of a word is a digit.
  have hother (d : Char) (hd : Text.isDecimal d = false) : c ≠ d := by
    rintro rfl
    rw [hc] at hd
    cases hd
  obtain ⟨hbound, hread⟩ := exists_of_bare h
  have hnext : bare (next? c rest) = some (.value v, r) := by
    rw [next?, if_neg (hother _ rfl), if_neg (hother _ rfl), if_neg (hother _ rfl),
      if_neg (hother _ rfl), if_neg (hother _ rfl), if_neg (hother _ rfl), if_neg (hother _ rfl),
      if_neg (hother _ rfl), if_neg (hother _ rfl), if_neg (hother _ rfl), if_neg (hother _ rfl),
      if_pos hc, hread]
    simp [hle, bare]
  exact scan?_of_next? (by simp [isSpace, hother, Text.isDecimal]) hnext

theorem scan?_signed {v : Json} {negative : Bool} {n : Nat} {tail : List Char}
    (h : bare (unsigned? negative (Nat.toDigits 10 n ++ tail)) = some (v, rest))
    (hle : rest.length ≤ tail.length) :
    scan? ((if negative then ['-'] else []) ++ (Nat.toDigits 10 n ++ tail)) =
      (scan? rest).map (.value v :: ·) := by
  cases negative with
  | true =>
      obtain ⟨hbound, hread⟩ := exists_of_bare h
      have hnext : bare (next? '-' (Nat.toDigits 10 n ++ tail)) = some (.value v, rest) := by
        simp [next?, hread, bare]
      exact scan?_of_next? rfl hnext
  | false =>
      cases hchars : Nat.toDigits 10 n with
      | nil => exact absurd hchars Nat.toDigits_ne_nil
      | cons c s =>
          rw [hchars] at h
          refine scan?_digit (Text.isDecimal_of_mem_toDigits (hchars ▸ List.mem_cons_self)) h ?_
          rw [List.append_eq, List.length_append]
          omega

theorem scan?_writeInteger (n : Int) (hrest : EndsNumber rest) :
    scan? (writeInteger n ++ rest) = (scan? rest).map (.value (.integer n) :: ·) := by
  have hread := bare_unsigned? (n < 0) (bare_whole? n.natAbs hrest.digits)
    (bare_fraction? hrest.fraction) (bare_exponent?_absent hrest)
  have hvalue : assemble (n < 0) (Nat.toDigits 10 n.natAbs) [] none = .integer n := by
    have hsign : ¬ (decide (n < 0) = true ∧ number (Nat.toDigits 10 n.natAbs) = 0) := by
      rw [decide_eq_true_iff, number_toDigits]
      omega
    have habs : (if n < 0 then -(n.natAbs : Int) else n.natAbs) = n := by omega
    rw [assemble, if_pos ⟨rfl, rfl, hsign⟩, number_toDigits]
    simp only [decide_eq_true_eq, habs]
  rw [hvalue] at hread
  have hscan := scan?_signed hread (Nat.le_refl _)
  simpa [writeInteger] using hscan

theorem scan?_writeReal (r : Real) (hrest : EndsDigits rest) :
    scan? (writeReal r ++ rest) = (scan? rest).map (.value (.real r) :: ·) := by
  have hpart : EndsDigits ('e' :: (writeInteger r.scale ++ rest)) := by
    rintro c ⟨⟩
    rfl
  have hread := bare_unsigned? r.negative (bare_whole? r.digits hpart)
    (bare_fraction? (by simp)) (bare_exponent? r.scale hrest)
  have hvalue : assemble r.negative (Nat.toDigits 10 r.digits) [] (some r.scale) = .real r := by
    simp [assemble, number_toDigits]
  rw [hvalue] at hread
  have hscan := scan?_signed hread (by simp only [List.length_cons, List.length_append]; omega)
  simpa [writeReal] using hscan

end ActionLauncher.Json.Token
