import ActionLauncher.Json.Token
import ActionLauncher.Json.Writer
import ActionLauncher.Proofs.Numerals

namespace ActionLauncher.Json

open Token (Piece isHigh isLow joinPair joinPieces? pieces? simpleEscape? unit?)

/-- Four hexadecimal digits of the given value. -/
inductive IsUnit (n : Nat) : List Char → Prop
  | mk {a b c d : Char} (h : Text.IsNumeral 16 [a, b, c, d] n) : IsUnit n [a, b, c, d]

/-- The letters of the short escapes, each with the character that it stands for. -/
def shortEscapes : List (Char × Char) :=
  [('"', '"'), ('\\', '\\'), ('/', '/'), ('b', '\x08'), ('f', '\x0c'), ('n', '\n'), ('r', '\r'),
    ('t', '\t')]

/-- What stands for a character between quotes. -/
inductive Spelling : Char → List Char → Prop
  | plain {c : Char} (hquote : c ≠ '"') (hescape : c ≠ '\\') (hcontrol : 0x20 ≤ c.toNat) :
      Spelling c [c]
  | short {c letter : Char} (h : (letter, c) ∈ shortEscapes) : Spelling c ['\\', letter]
  | code {c : Char} {digits : List Char} (h : IsUnit c.toNat digits) :
      Spelling c ('\\' :: 'u' :: digits)
  | pair {c : Char} {high low : List Char} {first second : Nat} (hhigh : IsUnit first high)
      (hlow : IsUnit second low) (hfirst : 0xD800 ≤ first ∧ first < 0xDC00)
      (hsecond : 0xDC00 ≤ second ∧ second < 0xE000)
      (hc : c.toNat = 0x10000 + (first - 0xD800) * 0x400 + (second - 0xDC00)) :
      Spelling c ('\\' :: 'u' :: (high ++ '\\' :: 'u' :: low))

/-- What stands for some characters between quotes. -/
inductive Spellings : List Char → List Char → Prop
  | nil : Spellings [] []
  | cons {c : Char} {s w ws : List Char} (first : Spelling c w) (rest : Spellings s ws) :
      Spellings (c :: s) (w ++ ws)

/-- A text between quotes. -/
inductive Quotes (text : String) : List Char → Prop
  | mk {w : List Char} (h : Spellings text.toList w) : Quotes text ('"' :: (w ++ ['"']))

variable {s t w rest digits : List Char} {c : Char} {n : Nat} {piece : Piece} {pieces : List Piece}

/-! ### Escapes -/

theorem unit?_eq_some_iff {a b c d : Char} :
    unit? a b c d = some n ↔ Text.IsNumeral 16 [a, b, c, d] n := by
  rw [← Text.digitsValue?_eq_some_iff (by decide)]
  exact (and_iff_right (List.cons_ne_nil _ _)).symm

theorem IsUnit.lt (h : IsUnit n digits) : n < 0x10000 := by
  obtain ⟨hnumeral⟩ := h
  simpa using hnumeral.lt_pow

theorem simpleEscape?_eq_some_iff {letter : Char} :
    simpleEscape? letter = some c ↔ (letter, c) ∈ shortEscapes := by
  unfold simpleEscape? shortEscapes
  split_ifs <;> simp_all [eq_comm]

theorem joinPieces?_unit (hhigh : isHigh n = false) (hlow : isLow n = false)
    (pieces : List Piece) :
    joinPieces? (.unit n :: pieces) = (joinPieces? pieces).map (Char.ofNat n :: ·) := by
  rcases pieces with - | ⟨- | -, pieces⟩ <;> simp [joinPieces?, hhigh, hlow]

theorem joinPieces?_code (c : Char) (pieces : List Piece) :
    joinPieces? (.unit c.toNat :: pieces) = (joinPieces? pieces).map (c :: ·) := by
  have hvalid : c.toNat < 0xD800 ∨ 0xDFFF < c.toNat ∧ c.toNat < 0x110000 := c.valid
  have hhigh : isHigh c.toNat = false := by
    simp [isHigh]
    omega
  have hlow : isLow c.toNat = false := by
    simp [isLow]
    omega
  rw [joinPieces?_unit hhigh hlow, Char.ofNat_toNat]

/-! ### Spellings are read -/

theorem Spelling.pieces?_append (h : Spelling c w) (s : List Char) :
    ∃ front, pieces? (w ++ s) =
        (pieces? s).map (fun (pieces, rest) => (front ++ pieces, rest)) ∧
      ∀ pieces, joinPieces? (front ++ pieces) = (joinPieces? pieces).map (c :: ·) := by
  cases h with
  | plain hquote hescape hcontrol =>
      refine ⟨[.char c], ?_, fun _ => rfl⟩
      have hplain : ¬ (c = '\\' ∨ c.toNat < 0x20) := by
        simp [hescape, hcontrol]
      rw [List.singleton_append, Token.pieces?.eq_5, if_neg hplain]
      all_goals simp_all
  | @short letter hletter =>
      refine ⟨[.char c], ?_, fun _ => rfl⟩
      have hescape := simpleEscape?_eq_some_iff.2 hletter
      have hunit : letter ≠ 'u' := by
        rintro rfl
        cases hescape
      rw [List.cons_append, List.singleton_append, Token.pieces?.eq_4, hescape]
      all_goals simp_all
  | code hdigits =>
      obtain ⟨hnumeral⟩ := hdigits
      refine ⟨[.unit c.toNat], ?_, joinPieces?_code c⟩
      simp [pieces?, unit?_eq_some_iff.2 hnumeral]
  | @pair _ _ first second hhigh hlow hfirst hsecond hc =>
      obtain ⟨hhigh⟩ := hhigh
      obtain ⟨hlow⟩ := hlow
      have hjoin : joinPair first second = c := by
        rw [joinPair, ← hc, Char.ofNat_toNat]
      refine ⟨[.unit first, .unit second], ?_, fun pieces => ?_⟩
      · simp [pieces?, unit?_eq_some_iff.2 hhigh, unit?_eq_some_iff.2 hlow, Function.comp_def]
      · simp [joinPieces?, isHigh, isLow, hfirst, hsecond, hjoin]

theorem Spellings.pieces?_append (h : Spellings s w) (rest : List Char) :
    ∃ pieces, pieces? (w ++ '"' :: rest) = some (pieces, rest) ∧ joinPieces? pieces = some s := by
  induction h with
  | nil => exact ⟨[], rfl, rfl⟩
  | @cons c s w ws first _ ih =>
      obtain ⟨pieces, hread, hjoin⟩ := ih
      obtain ⟨front, hfront, hone⟩ := first.pieces?_append (ws ++ '"' :: rest)
      refine ⟨front ++ pieces, ?_, ?_⟩
      · rw [List.append_assoc, hfront, hread, Option.map_some]
      · rw [hone, hjoin, Option.map_some]

/-! ### What is read was spelled -/

/-- What a piece was read from. -/
inductive PieceSpelling : Piece → List Char → Prop
  | char {c : Char} {w : List Char} (h : Spelling c w) : PieceSpelling (.char c) w
  | unit {n : Nat} {digits : List Char} (h : IsUnit n digits) :
      PieceSpelling (.unit n) ('\\' :: 'u' :: digits)

theorem exists_of_pieces? (h : pieces? s = some (pieces, rest)) :
    ∃ ws, List.Forall₂ PieceSpelling pieces ws ∧ s = ws.flatten ++ '"' :: rest := by
  fun_induction pieces? s generalizing pieces with
  | case1 => cases h
  | case2 =>
      cases h
      exact ⟨[], .nil, rfl⟩
  | case3 => cases h
  | case4 a b c d tail n hunit ih =>
      obtain ⟨⟨others, _⟩, hread, heq⟩ := Option.map_eq_some_iff.1 h
      cases heq
      obtain ⟨ws, hws, rfl⟩ := ih hread
      exact ⟨_ :: ws, .cons (.unit (.mk (unit?_eq_some_iff.1 hunit))) hws, rfl⟩
  | case5 => cases h
  | case6 letter tail _ c hescape ih =>
      obtain ⟨⟨others, _⟩, hread, heq⟩ := Option.map_eq_some_iff.1 h
      cases heq
      obtain ⟨ws, hws, rfl⟩ := ih hread
      exact ⟨_ :: ws, .cons (.char (.short (simpleEscape?_eq_some_iff.1 hescape))) hws, rfl⟩
  | case7 => cases h
  | case8 c tail hquote _ _ hplain ih =>
      obtain ⟨⟨others, _⟩, hread, heq⟩ := Option.map_eq_some_iff.1 h
      cases heq
      obtain ⟨ws, hws, rfl⟩ := ih hread
      rw [not_or, Nat.not_lt] at hplain
      exact ⟨_ :: ws, .cons (.char (.plain hquote hplain.1 hplain.2)) hws, rfl⟩

theorem toNat_ofNat (h : n.isValidChar) : (Char.ofNat n).toNat = n := by
  rw [Char.ofNat, dif_pos h]
  rfl

theorem Spelling.of_pair {high low : List Char} {first second : Nat} (hhigh : IsUnit first high)
    (hlow : IsUnit second low) (hfirst : isHigh first = true) (hsecond : isLow second = true) :
    Spelling (joinPair first second) ('\\' :: 'u' :: (high ++ '\\' :: 'u' :: low)) := by
  simp only [isHigh, isLow, Bool.and_eq_true, decide_eq_true_eq] at hfirst hsecond
  refine .pair hhigh hlow hfirst hsecond (toNat_ofNat ?_)
  right
  omega

theorem Spelling.of_unit (h : IsUnit n digits) (hhigh : isHigh n = false) (hlow : isLow n = false) :
    Spelling (Char.ofNat n) ('\\' :: 'u' :: digits) := by
  have hlt := h.lt
  have hvalid : n.isValidChar := by
    simp [isHigh, isLow] at hhigh hlow
    omega
  refine .code ?_
  rwa [toNat_ofNat hvalid]

theorem Spellings.of_pieces {ws : List (List Char)} (hws : List.Forall₂ PieceSpelling pieces ws)
    (hjoin : joinPieces? pieces = some s) : Spellings s ws.flatten := by
  fun_induction joinPieces? pieces generalizing s ws with
  | case1 =>
      cases hws
      cases hjoin
      exact .nil
  | case2 c others ih =>
      obtain ⟨s, hs, rfl⟩ := Option.map_eq_some_iff.1 hjoin
      obtain _ | ⟨⟨h⟩ | _, hothers⟩ := hws
      exact .cons h (ih hothers hs)
  | case3 first hhigh second others hlow ih =>
      obtain ⟨s, hs, rfl⟩ := Option.map_eq_some_iff.1 hjoin
      obtain _ | ⟨_ | ⟨hfirst⟩, _ | ⟨_ | ⟨hsecond⟩, hothers⟩⟩ := hws
      have hpair := Spelling.of_pair hfirst hsecond hhigh hlow
      simpa using Spellings.cons hpair (ih hothers hs)
  | case4 | case5 | case6 => cases hjoin
  | case7 code others hhigh hlow ih =>
      obtain ⟨s, hs, rfl⟩ := Option.map_eq_some_iff.1 hjoin
      obtain _ | ⟨_ | ⟨h⟩, hothers⟩ := hws
      have hunit := Spelling.of_unit h (by simpa using hhigh) (by simpa using hlow)
      exact .cons hunit (ih hothers hs)

/-- What the reader of a text took was a spelling of it. -/
theorem exists_spellings (hread : pieces? s = some (pieces, rest))
    (hjoin : joinPieces? pieces = some t) : ∃ w, Spellings t w ∧ s = w ++ '"' :: rest := by
  obtain ⟨ws, hws, rfl⟩ := exists_of_pieces? hread
  exact ⟨ws.flatten, .of_pieces hws hjoin, rfl⟩

/-! ### The spelling that is written -/

theorem spelling_writeChar (c : Char) : Spelling c (writeChar c) := by
  unfold writeChar
  split_ifs with hquote hback hb hf hn hr ht hcontrol
  · exact .short (by simp [shortEscapes, hquote])
  · exact .short (by simp [shortEscapes, hback])
  · exact .short (by simp [shortEscapes, hb])
  · exact .short (by simp [shortEscapes, hf])
  · exact .short (by simp [shortEscapes, hn])
  · exact .short (by simp [shortEscapes, hr])
  · exact .short (by simp [shortEscapes, ht])
  · have hread : Text.digitsValue? 16 0 (Text.fixedDigits 16 4 c.toNat) = some c.toNat :=
      Text.digitsValue?_fixedDigits_of_lt (by decide) (by decide)
        (Nat.lt_trans hcontrol (by decide))
    exact .code (.mk (unit?_eq_some_iff.1 hread))
  · exact .plain hquote hback (Nat.not_lt.1 hcontrol)

theorem quotes_writeText (text : String) : Quotes text (writeText text.toList) := by
  have hall (s : List Char) : Spellings s (s.flatMap writeChar) := by
    induction s with
    | nil => exact .nil
    | cons c s ih => exact .cons (spelling_writeChar c) ih
  exact .mk (hall text.toList)

end ActionLauncher.Json
