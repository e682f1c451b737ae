import ActionLauncher.Text.Digits
import ActionLauncher.Text.Split

namespace ActionLauncher.SiteXml

open Text.Chars

/-- The character with a given code, absent for surrogates and beyond the last code point. -/
def scalar? (n : Nat) : Option Char :=
  if n.isValidChar then some (Char.ofNat n) else none

/-- One more than the largest code that a numeric reference can write. -/
def codeLimit : Nat := 0x100000000

/-- The code of a numeric reference: hexadecimal after `#x` or `#X`, decimal after `#`. -/
def code? : List Char → Option Nat
  | '#' :: 'x' :: digits | '#' :: 'X' :: digits => Text.readUnsigned? 16 codeLimit digits
  | '#' :: digits => Text.readUnsigned? 10 codeLimit digits
  | _ => none

/-- The character that a reference names, given what stands between the ampersand and the
semicolon. -/
def referent? (name : List Char) : Option Char :=
  if name = "amp".toList then some '&'
  else if name = "lt".toList then some '<'
  else if name = "gt".toList then some '>'
  else if name = "quot".toList then some '"'
  else if name = "apos".toList then some '\''
  else (code? name).bind scalar?

/-- The character of the reference that follows an ampersand, and the rest of the text. -/
def reference? (s : List Char) : Option (Char × List Char) :=
  (splitFirst? ';' s).bind fun (name, rest) => (referent? name).map fun c => (c, rest)

theorem length_of_splitFirst? {sep : Char} {s before after : List Char}
    (h : splitFirst? sep s = some (before, after)) : after.length < s.length := by
  induction s generalizing before with
  | nil => simp [splitFirst?] at h
  | cons c rest ih =>
      rw [splitFirst?] at h
      split at h
      · simp_all
      · obtain ⟨⟨b, a⟩, hrest, heq⟩ := Option.map_eq_some_iff.1 h
        obtain ⟨-, rfl⟩ := Prod.mk.inj heq
        exact Nat.lt_succ_of_lt (ih hrest)

theorem length_of_reference? {s rest : List Char} {c : Char}
    (h : reference? s = some (c, rest)) : rest.length < s.length := by
  obtain ⟨⟨name, r⟩, hsplit, hmap⟩ := Option.bind_eq_some_iff.1 h
  obtain ⟨d, -, heq⟩ := Option.map_eq_some_iff.1 hmap
  obtain ⟨-, rfl⟩ := Prod.mk.inj heq
  exact length_of_splitFirst? hsplit

/-- Replaces every reference by its character. -/
def decodeEntities : List Char → List Char
  | [] => []
  | c :: s =>
      if c = '&' then
        match h : reference? s with
        | some (d, rest) =>
            have := length_of_reference? h
            d :: decodeEntities rest
        | none => '&' :: decodeEntities s
      else c :: decodeEntities s
  termination_by s => s.length

/-- One character as a document writes it. -/
def escapeChar (c : Char) : List Char :=
  if c = '&' then "&amp;".toList
  else if c = '<' then "&lt;".toList
  else if c = '>' then "&gt;".toList
  else if c = '"' then "&quot;".toList
  else if c = '\'' then "&apos;".toList
  else [c]

def escape (s : List Char) : List Char :=
  s.flatMap escapeChar

end ActionLauncher.SiteXml
