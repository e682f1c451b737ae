import ActionLauncher.FileTree
import ActionLauncher.Table
import ActionLauncher.Text.Digits

/-!
The output sheet: properties that an action hands to the next step, written as a property file.
In a key every space is escaped, in a value only a leading one; whatever is not printable ASCII
becomes an escape of its UTF-16 units.
-/

namespace ActionLauncher

/-- The properties set so far, in the order in which they were first set. -/
structure OutputSheet where
  table : Table
  deriving DecidableEq, Inhabited

/-- Why a sheet was not written. -/
inductive OutputError
  | noDestination
  | unwritable (path : Path) (cause : IoError)
  deriving DecidableEq, Repr

def OutputError.message : OutputError → String
  | .noDestination => "Output properties destination is not set"
  | .unwritable path cause =>
      "Failed to write output properties to " ++ path.text ++ ": " ++ cause.message

namespace OutputSheet

def empty : OutputSheet :=
  ⟨∅⟩

def insert (sheet : OutputSheet) (key value : String) : OutputSheet :=
  ⟨sheet.table.insert key value⟩

def entries (sheet : OutputSheet) : List (String × String) :=
  sheet.table.entries

def size (sheet : OutputSheet) : Nat :=
  sheet.table.size

def units (c : Char) : List Nat :=
  let n := c.toNat
  if n < 0x10000 then [n]
  else [0xD800 + (n - 0x10000) / 0x400, 0xDC00 + (n - 0x10000) % 0x400]

/-- One character of a key, or of a value after its first character. -/
def escapeChar (c : Char) : List Char :=
  if c = '\\' then ['\\', '\\']
  else if c = '\t' then ['\\', 't']
  else if c = '\n' then ['\\', 'n']
  else if c = '\r' then ['\\', 'r']
  else if c = '\x0c' then ['\\', 'f']
  else if c = '=' ∨ c = ':' ∨ c = '#' ∨ c = '!' then ['\\', c]
  else if ' ' ≤ c ∧ c ≤ '~' then [c]
  else (units c).flatMap fun unit => '\\' :: 'u' :: Text.fixedUpperHex 4 unit

/-- One character with a space escaped too. -/
def escapeSpaceToo (c : Char) : List Char :=
  if c = ' ' then ['\\', ' '] else escapeChar c

def escapeKey (s : List Char) : List Char :=
  s.flatMap escapeSpaceToo

def escapeValue : List Char → List Char
  | [] => []
  | c :: rest => escapeSpaceToo c ++ rest.flatMap escapeChar

def writeEntry (key value : String) : List Char :=
  escapeKey key.toList ++ '=' :: escapeValue value.toList ++ ['\n']

/-- The lines of the file after its head. -/
def writeEntries (entries : List (String × String)) : List Char :=
  entries.flatMap fun (key, value) => writeEntry key value

/-- The text of the file, with a date in its head. -/
def render (sheet : OutputSheet) (date : String) : String :=
  String.ofList ('#' :: date.toList ++ '\n' :: writeEntries sheet.entries)

def write (sheet : OutputSheet) (date : String) (files : FileTree) (path : Path) :
    Except OutputError FileTree :=
  (files.writeText path (sheet.render date)).mapError (.unwritable path)

/-- Writes the file to a destination that may be missing. -/
def writeTo? (sheet : OutputSheet) (date : String) (files : FileTree) (path : Option Path) :
    Except OutputError FileTree :=
  match path with
  | none => .error .noDestination
  | some path => sheet.write date files path

end OutputSheet

end ActionLauncher
