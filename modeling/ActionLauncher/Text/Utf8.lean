/-!
Bytes read as UTF-8.  A well-formed sequence gives its character.  Where the bytes are ill formed,
the longest start of a well-formed sequence (or else a single byte) counts as one fault; lenient
reading puts one replacement character for each fault, strict reading refuses.
-/

namespace ActionLauncher.Text.Utf8

/-- What a first byte announces: the bits it carries, the number of bytes that follow, and the
range of the first of these. -/
structure Lead where
  bits : Nat
  followers : Nat
  low : UInt8
  high : UInt8

/-- The announcement of a first byte, absent when no sequence starts with it. -/
def Lead.of? (b : UInt8) : Option Lead :=
  if b < 0x80 then some ⟨b.toNat, 0, 0x80, 0xBF⟩
  else if b < 0xC2 then none
  else if b < 0xE0 then some ⟨b.toNat - 0xC0, 1, 0x80, 0xBF⟩
  else if b == 0xE0 then some ⟨0, 2, 0xA0, 0xBF⟩
  else if b == 0xED then some ⟨0xD, 2, 0x80, 0x9F⟩
  else if b < 0xF0 then some ⟨b.toNat - 0xE0, 2, 0x80, 0xBF⟩
  else if b == 0xF0 then some ⟨0, 3, 0x90, 0xBF⟩
  else if b < 0xF4 then some ⟨b.toNat - 0xF0, 3, 0x80, 0xBF⟩
  else if b == 0xF4 then some ⟨4, 3, 0x80, 0x8F⟩
  else none

/-- Reads the given number of following bytes, the first of them between `low` and `high`, and
stops before the first byte that does not fit. -/
def follow : Nat → UInt8 → UInt8 → Nat → List UInt8 → Option Nat × List UInt8
  | 0, _, _, value, rest => (some value, rest)
  | _ + 1, _, _, _, [] => (none, [])
  | n + 1, low, high, value, b :: rest =>
      if low ≤ b && b ≤ high then follow n 0x80 0xBF (value * 64 + (b.toNat - 0x80)) rest
      else (none, b :: rest)

theorem length_follow_le (n : Nat) (low high : UInt8) (value : Nat) (rest : List UInt8) :
    (follow n low high value rest).2.length ≤ rest.length := by
  induction rest generalizing n low high value with
  | nil => cases n <;> simp [follow]
  | cons b rest ih =>
      cases n with
      | zero => simp [follow]
      | succ n =>
          rw [follow]
          split
          · exact Nat.le_succ_of_le (ih ..)
          · simp

/-- The character, or the fault, at the front of some bytes, and what follows it. -/
def step (b : UInt8) (rest : List UInt8) : Option Char × List UInt8 :=
  match Lead.of? b with
  | none => (none, rest)
  | some lead =>
      let (value, rest) := follow lead.followers lead.low lead.high lead.bits rest
      (value.map Char.ofNat, rest)

theorem length_step_le (b : UInt8) (rest : List UInt8) :
    (step b rest).2.length ≤ rest.length := by
  unfold step
  split
  · exact Nat.le_refl _
  · exact length_follow_le ..

/-- The characters of some bytes, a fault being absent. -/
def decode : List UInt8 → List (Option Char)
  | [] => []
  | b :: rest => (step b rest).1 :: decode (step b rest).2
  termination_by bytes => bytes.length
  decreasing_by exact Nat.lt_succ_of_le (length_step_le b rest)

/-- The text of some bytes, absent when they are ill formed. -/
def strict? (bytes : List UInt8) : Option String :=
  ((decode bytes).mapM id).map String.ofList

/-- The text of some bytes, with U+FFFD for each fault. -/
def lenient (bytes : List UInt8) : String :=
  String.ofList ((decode bytes).map fun c => c.getD (Char.ofNat 0xFFFD))

end ActionLauncher.Text.Utf8
