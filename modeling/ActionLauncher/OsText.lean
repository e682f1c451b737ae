import ActionLauncher.Table
import ActionLauncher.Text.Utf8

namespace ActionLauncher

/-- Bytes that are not UTF-8. -/
structure NotText where
  bytes : List UInt8
  not_text : Text.Utf8.strict? bytes = none

/-- What the system keeps as a text: nothing asks it to be UTF-8. -/
inductive OsText
  | text (s : String)
  | bytes (raw : NotText)

namespace OsText

def text? : OsText → Option String
  | text s => some s
  | bytes _ => none

def isEmpty : OsText → Bool
  | text s => s.isEmpty
  | bytes _ => false

/-- The text to show, with a mark for every fault. -/
def display : OsText → String
  | text s => s
  | bytes raw => Text.Utf8.lenient raw.bytes

end OsText

/-- Environment variables: those whose values are texts, and others. -/
structure Environment where
  texts : Table
  others : List (String × NotText)

instance : Coe Table Environment :=
  ⟨fun texts => ⟨texts, []⟩⟩

def Environment.get? (environment : Environment) (name : String) : Option OsText :=
  ((environment.texts.get? name).map .text).or ((environment.others.lookup name).map .bytes)

end ActionLauncher
