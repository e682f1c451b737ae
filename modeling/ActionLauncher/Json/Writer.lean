import ActionLauncher.Json.Value
import ActionLauncher.Text.Digits

namespace ActionLauncher.Json

def writeChar (c : Char) : List Char :=
  if c = '"' then ['\\', '"']
  else if c = '\\' then ['\\', '\\']
  else if c = '\x08' then ['\\', 'b']
  else if c = '\x0c' then ['\\', 'f']
  else if c = '\n' then ['\\', 'n']
  else if c = '\r' then ['\\', 'r']
  else if c = '\t' then ['\\', 't']
  else if c.toNat < 0x20 then ['\\', 'u'] ++ Text.fixedDigits 16 4 c.toNat
  else [c]

def writeText (s : List Char) : List Char :=
  '"' :: s.flatMap writeChar ++ ['"']

def writeInteger (n : Int) : List Char :=
  (if n < 0 then ['-'] else []) ++ Nat.toDigits 10 n.natAbs

/-- A real number, as its digits and their scale. -/
def writeReal (r : Real) : List Char :=
  (if r.negative then ['-'] else []) ++ Nat.toDigits 10 r.digits ++ 'e' :: writeInteger r.scale

mutual

/-- The compact text of a value; a text with a lone surrogate is written empty. -/
def write : Json → List Char
  | .null => ['n', 'u', 'l', 'l']
  | .bool true => ['t', 'r', 'u', 'e']
  | .bool false => ['f', 'a', 'l', 's', 'e']
  | .integer n => writeInteger n
  | .real r => writeReal r
  | .string s => writeText ((s.getD "").toList)
  | .array items => '[' :: writeItems items ++ [']']
  | .object members => '\x7b' :: writeMembers members ++ ['\x7d']

/-- The items of an array with commas between them. -/
def writeItems : List Json → List Char
  | [] => []
  | [item] => write item
  | item :: rest => write item ++ ',' :: writeItems rest

/-- The members of an object with commas between them. -/
def writeMembers : List (Option String × Json) → List Char
  | [] => []
  | [(key, value)] => writeText ((key.getD "").toList) ++ ':' :: write value
  | (key, value) :: rest =>
      writeText ((key.getD "").toList) ++ ':' :: write value ++ ',' :: writeMembers rest

end

def render (value : Json) : String :=
  String.ofList value.write

/-- The start of a line at the given level. -/
def indent (level : Nat) : List Char :=
  '\n' :: List.replicate (2 * level) ' '

mutual

/-- The indented text of a value that stands at the given level. -/
def writeIndented (level : Nat) : Json → List Char
  | .array (item :: rest) =>
      '[' :: writeIndentedItems (level + 1) (item :: rest) ++ indent level ++ [']']
  | .object (member :: rest) =>
      '\x7b' :: writeIndentedMembers (level + 1) (member :: rest) ++ indent level ++ ['\x7d']
  | value => write value

/-- The items of an array, each on lines of its own. -/
def writeIndentedItems (level : Nat) : List Json → List Char
  | [] => []
  | [item] => indent level ++ writeIndented level item
  | item :: rest =>
      indent level ++ writeIndented level item ++ ',' :: writeIndentedItems level rest

/-- The members of an object, each on lines of its own. -/
def writeIndentedMembers (level : Nat) : List (Option String × Json) → List Char
  | [] => []
  | [(key, value)] =>
      indent level ++ writeText ((key.getD "").toList) ++ ':' :: ' ' :: writeIndented level value
  | (key, value) :: rest =>
      indent level ++ writeText ((key.getD "").toList) ++ ':' :: ' ' ::
        writeIndented level value ++ ',' :: writeIndentedMembers level rest

end

def renderIndented (value : Json) : String :=
  String.ofList (value.writeIndented 0)

end ActionLauncher.Json
