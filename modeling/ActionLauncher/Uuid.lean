import ActionLauncher.Text.Digits

/-!
Identifiers of 128 bits.  They are written as 32 lower-case hexadecimal digits in groups of 8, 4,
4, 4 and 12; they are read in either case, with the hyphens between the groups or without any, and
with the hyphens also in braces or after `urn:uuid:` in either case.
-/

namespace ActionLauncher

/-- An identifier of 128 bits. -/
structure Uuid where
  bits : BitVec 128
  deriving DecidableEq

namespace Uuid

instance : Inhabited Uuid :=
  ⟨⟨0⟩⟩

/-- The identifier with a given number. -/
def ofNat (n : Nat) : Uuid :=
  ⟨BitVec.ofNat 128 n⟩

def digits (id : Uuid) : List Char :=
  Text.fixedDigits 16 32 id.bits.toNat

/-- The digits without hyphens, as a text. -/
def compact (id : Uuid) : String :=
  String.ofList id.digits

/-- Puts hyphens between the groups of 32 digits. -/
def group (digits : List Char) : List Char :=
  digits.take 8 ++ '-' :: ((digits.drop 8).take 4 ++ '-' :: ((digits.drop 12).take 4 ++ '-' ::
    ((digits.drop 16).take 4 ++ '-' :: digits.drop 20)))

def render (id : Uuid) : String :=
  String.ofList (group id.digits)

/-- Takes away the hyphens of a grouped text, which must stand where `group` puts them. -/
def ungroup? (s : List Char) : Option (List Char) :=
  let digits := s.take 8 ++ (s.drop 9).take 4 ++ (s.drop 14).take 4 ++ (s.drop 19).take 4 ++
    s.drop 24
  if s = group digits then some digits else none

def ofDigits? (s : List Char) : Option Uuid :=
  if s.length = 32 then (Text.digitsValue? 16 0 s).map ofNat else none

def ofGrouped? (s : List Char) : Option Uuid :=
  (ungroup? s).bind ofDigits?

/-- Reads the grouped form after `urn:uuid:`, which may be written in either case. -/
def ofUrn? (s : List Char) : Option Uuid :=
  if (s.take 9).map Char.toLower = "urn:uuid:".toList then ofGrouped? (s.drop 9) else none

/-- Reads an identifier in any of its forms. -/
def readChars? (s : List Char) : Option Uuid :=
  if s.length = 32 then ofDigits? s
  else if s.length = 36 then ofGrouped? s
  else if s.length = 38 then
    match s with
    | '\x7b' :: rest => if rest.getLast? = some '\x7d' then ofGrouped? rest.dropLast else none
    | _ => none
  else if s.length = 45 then ofUrn? s
  else none

/-- Reads an identifier in any of its forms. -/
def read? (s : String) : Option Uuid :=
  readChars? s.toList

end Uuid

end ActionLauncher
