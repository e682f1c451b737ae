import ActionLauncher.Proofs.Numerals
import ActionLauncher.Proofs.SiteRoundTrip

namespace ActionLauncher.SiteXml

open Text.Chars

/-- What stands between the ampersand and the semicolon of a reference denotes a character: by one
of the five names, or by a numeral of its code. -/
inductive Denotes : List Char → Char → Prop
  | amp : Denotes "amp".toList '&'
  | lt : Denotes "lt".toList '<'
  | gt : Denotes "gt".toList '>'
  | quot : Denotes "quot".toList '"'
  | apos : Denotes "apos".toList '\''
  | decimal {digits : List Char} {c : Char} (h : Text.IsUnsigned 10 digits c.toNat) :
      Denotes ('#' :: digits) c
  | hexadecimal {mark : Char} {digits : List Char} {c : Char} (hmark : mark = 'x' ∨ mark = 'X')
      (h : Text.IsUnsigned 16 digits c.toNat) : Denotes ('#' :: mark :: digits) c

variable {name : List Char} {c : Char}

theorem code?_decimal {digits : List Char} {n : Nat} (h : Text.IsUnsigned 10 digits n)
    (hlimit : n < codeLimit) : code? ('#' :: digits) = some n := by
  have hletter {mark : Char} (hmark : mark = 'x' ∨ mark = 'X') : mark ∉ digits := by
    rcases hmark with rfl | rfl <;> exact h.not_mem (by decide) (by decide) rfl
  unfold code?
  split
  · rename_i heq
    cases heq
    exact absurd List.mem_cons_self (hletter (.inl rfl))
  · rename_i heq
    cases heq
    exact absurd List.mem_cons_self (hletter (.inr rfl))
  · rename_i heq
    cases heq
    exact (Text.readUnsigned?_eq_some_iff (by decide)).2 ⟨hlimit, h⟩
  · rename_i hother
    exact absurd rfl (hother digits)

theorem code?_eq_some_iff {n : Nat} : code? name = some n ↔ n < codeLimit ∧
    ((∃ digits, name = '#' :: digits ∧ Text.IsUnsigned 10 digits n) ∨
      ∃ mark digits, (mark = 'x' ∨ mark = 'X') ∧ name = '#' :: mark :: digits ∧
        Text.IsUnsigned 16 digits n) := by
  constructor
  · intro h
    unfold code? at h
    split at h
    · obtain ⟨hlimit, hdigits⟩ := (Text.readUnsigned?_eq_some_iff (by decide)).1 h
      exact ⟨hlimit, .inr ⟨'x', _, .inl rfl, rfl, hdigits⟩⟩
    · obtain ⟨hlimit, hdigits⟩ := (Text.readUnsigned?_eq_some_iff (by decide)).1 h
      exact ⟨hlimit, .inr ⟨'X', _, .inr rfl, rfl, hdigits⟩⟩
    · obtain ⟨hlimit, hdigits⟩ := (Text.readUnsigned?_eq_some_iff (by decide)).1 h
      exact ⟨hlimit, .inl ⟨_, rfl, hdigits⟩⟩
    · cases h
  · rintro ⟨hlimit, ⟨digits, rfl, hdigits⟩ | ⟨mark, digits, rfl | rfl, rfl, hdigits⟩⟩
    · exact code?_decimal hdigits hlimit
    · exact (Text.readUnsigned?_eq_some_iff (by decide)).2 ⟨hlimit, hdigits⟩
    · exact (Text.readUnsigned?_eq_some_iff (by decide)).2 ⟨hlimit, hdigits⟩

theorem scalar?_eq_some_iff {n : Nat} : scalar? n = some c ↔ n = c.toNat := by
  rw [scalar?]
  constructor
  · intro h
    split at h
    · rename_i hvalid
      cases h
      rw [Char.ofNat, dif_pos hvalid]
      rfl
    · cases h
  · rintro rfl
    have hvalid : c.toNat.isValidChar := c.valid
    rw [if_pos hvalid, Char.ofNat_toNat]

theorem toNat_lt_codeLimit (c : Char) : c.toNat < codeLimit := by
  rcases c.valid with h | ⟨-, h⟩
  · exact Nat.lt_trans h (by decide)
  · exact Nat.lt_trans h (by decide)

theorem referent?_eq_some_iff : referent? name = some c ↔ Denotes name c := by
  constructor
  · intro h
    unfold referent? at h
    split_ifs at h with hamp hlt hgt hquot hapos
    · cases h
      exact hamp ▸ .amp
    · cases h
      exact hlt ▸ .lt
    · cases h
      exact hgt ▸ .gt
    · cases h
      exact hquot ▸ .quot
    · cases h
      exact hapos ▸ .apos
    · obtain ⟨n, hcode, hscalar⟩ := Option.bind_eq_some_iff.1 h
      obtain rfl := scalar?_eq_some_iff.1 hscalar
      obtain ⟨-, ⟨digits, rfl, hn⟩ | ⟨mark, digits, hmark, rfl, hn⟩⟩ := code?_eq_some_iff.1 hcode
      · exact .decimal hn
      · exact .hexadecimal hmark hn
  · have hnumeral {rest : List Char} (hcode : code? ('#' :: rest) = some c.toNat) :
        referent? ('#' :: rest) = some c := by
      unfold referent?
      rw [hcode, Option.bind_some, scalar?_eq_some_iff.2 rfl]
      simp
    intro h
    cases h with
    | amp => rfl
    | lt => rfl
    | gt => rfl
    | quot => rfl
    | apos => rfl
    | decimal h =>
        exact hnumeral (code?_eq_some_iff.2 ⟨toNat_lt_codeLimit c, .inl ⟨_, rfl, h⟩⟩)
    | hexadecimal hmark h =>
        exact hnumeral (code?_eq_some_iff.2 ⟨toNat_lt_codeLimit c, .inr ⟨_, _, hmark, rfl, h⟩⟩)

/-- No reference goes on behind its semicolon. -/
theorem Denotes.not_mem (h : Denotes name c) : ';' ∉ name := by
  cases h with
  | amp => decide
  | lt => decide
  | gt => decide
  | quot => decide
  | apos => decide
  | decimal h => simpa using h.not_mem (by decide) (by decide) rfl
  | hexadecimal hmark h =>
      have hdigits := h.not_mem (by decide) (c := ';') (by decide) rfl
      rcases hmark with rfl | rfl <;> simpa using hdigits

/-- A piece of a text with references. -/
inductive Piece
  /-- A text without ampersand. -/
  | raw (text : List Char) (h : '&' ∉ text)
  /-- A reference to a character. -/
  | character (name : List Char) (c : Char) (h : Denotes name c)
  /-- A reference to nothing. -/
  | unknown (name : List Char) (hstart : '&' ∉ name) (hend : ';' ∉ name)
      (h : ∀ c, ¬ Denotes name c)

namespace Piece

def text : Piece → List Char
  | raw text _ => text
  | character name _ _ | unknown name _ _ _ => '&' :: name ++ [';']

def meaning : Piece → List Char
  | raw text _ => text
  | character _ c _ => [c]
  | unknown name _ _ _ => '&' :: name ++ [';']

end Piece

theorem reference?_append (h : ';' ∉ name) (rest : List Char) :
    reference? (name ++ ';' :: rest) = (referent? name).map fun c => (c, rest) := by
  rw [reference?, splitFirst?_append h, Option.bind_some]

theorem decodeEntities_raw {s : List Char} (h : '&' ∉ s) (rest : List Char) :
    decodeEntities (s ++ rest) = s ++ decodeEntities rest := by
  induction s with
  | nil => rfl
  | cons c s ih =>
      rw [List.mem_cons, not_or] at h
      rw [List.cons_append, decodeEntities_cons (Ne.symm h.1), ih h.2, List.cons_append]

theorem decodeEntities_of_no_reference {s : List Char} (h : reference? s = none) :
    decodeEntities ('&' :: s) = '&' :: decodeEntities s := by
  rw [decodeEntities, if_pos rfl]
  split
  · rename_i hfound
    rw [h] at hfound
    cases hfound
  · rfl

theorem decodeEntities_piece (piece : Piece) (rest : List Char) :
    decodeEntities (piece.text ++ rest) = piece.meaning ++ decodeEntities rest := by
  have hsplit (name : List Char) : '&' :: name ++ [';'] ++ rest = '&' :: (name ++ ';' :: rest) := by
    simp
  cases piece with
  | raw text h => exact decodeEntities_raw h rest
  | character name c h =>
      have hfound : reference? (name ++ ';' :: rest) = some (c, rest) := by
        rw [reference?_append h.not_mem, referent?_eq_some_iff.2 h, Option.map_some]
      show decodeEntities ('&' :: name ++ [';'] ++ rest) = [c] ++ decodeEntities rest
      rw [hsplit, decodeEntities_of_reference hfound]
      rfl
  | unknown name hstart hend h =>
      have hreferent : referent? name = none :=
        Option.eq_none_iff_forall_ne_some.2 fun c hc => h c (referent?_eq_some_iff.1 hc)
      have hnone : reference? (name ++ ';' :: rest) = none := by
        rw [reference?_append hend, hreferent, Option.map_none]
      -- The ampersand stands for itself, and what follows it is raw.
      have hraw : '&' ∉ name ++ [';'] := by simpa using hstart
      have hrest := decodeEntities_raw hraw rest
      rw [List.append_assoc, List.singleton_append] at hrest
      show decodeEntities ('&' :: name ++ [';'] ++ rest) = '&' :: name ++ [';'] ++ _
      rw [hsplit, decodeEntities_of_no_reference hnone, hrest, List.cons_append, List.cons_append]

/-- A text made of pieces is read as what they mean, one after another: each is read once, and
the same way whatever follows.  In particular a text that was escaped is read as it was. -/
theorem decodeEntities_pieces :
    (∀ pieces : List Piece,
      decodeEntities (pieces.flatMap Piece.text) = pieces.flatMap Piece.meaning) ∧
    (∀ (pieces : List Piece) (rest : List Char),
      decodeEntities (pieces.flatMap Piece.text ++ rest) =
        pieces.flatMap Piece.meaning ++ decodeEntities rest) ∧
    ∀ a b : List Char, decodeEntities (escape a ++ b) = a ++ decodeEntities b := by
  have happend (pieces : List Piece) (rest : List Char) :
      decodeEntities (pieces.flatMap Piece.text ++ rest) =
        pieces.flatMap Piece.meaning ++ decodeEntities rest := by
    induction pieces with
    | nil => rfl
    | cons piece pieces ih =>
        rw [List.flatMap_cons, List.append_assoc, decodeEntities_piece, ih, List.flatMap_cons,
          List.append_assoc]
  refine ⟨fun pieces => ?_, happend, decodeEntities_escape_append⟩
  have h := happend pieces []
  rwa [List.append_nil, decodeEntities, List.append_nil] at h

/-- What a reference gives is not read again. -/
example : decodeEntities "&amp;lt;&#x3C;&#+060;&#xD800;".toList = "&lt;<<&#xD800;".toList := by
  cbv

end ActionLauncher.SiteXml
