import ActionLauncher.Configuration
import ActionLauncher.SiteXml.Entity
import ActionLauncher.SiteXml.Pattern

/-!
Site documents: a `<configuration>` of `<property>` elements, each with a `<name>` and a `<value>`.
Comments do not count; a property without a value is passed over, one without a name is a fault.
-/

namespace ActionLauncher.SiteXml

open Text.Chars

/-- Why a text is no site document. -/
inductive Fault
  | noRoot
  /-- The property with this number, counted from one, has no name. -/
  | noName (number : Nat)
  deriving DecidableEq, Repr

def Fault.reason : Fault → String
  | .noRoot => "missing <configuration> root element"
  | .noName number => "property #" ++ Text.decimal number ++ " has no <name>"

def withoutComments (s : List Char) : List Char :=
  match h : Mark.comment.find? s with
  | none => s
  | some (before, _, rest) =>
      have := Mark.length_of_find? Mark.comment_advances h
      before ++ withoutComments rest
  termination_by s.length

/-- The contents of the property elements, in order. -/
def propertyBodies (s : List Char) : List (List Char) :=
  match h : Mark.property.find? s with
  | none => []
  | some (_, body, rest) =>
      have := Mark.length_of_find? Mark.property_advances h
      body :: propertyBodies rest
  termination_by s.length

/-- The text before a given end, if it ends so. -/
def before? (ending s : List Char) : Option (List Char) :=
  (after? ending.reverse s.reverse).map List.reverse

/-- The text inside a section whose content is taken as it is, if there is nothing else but white
space around it. -/
def section? (s : List Char) : Option (List Char) :=
  (after? "<![CDATA[".toList (trim s)).bind (before? "]]>".toList)

def decodeText (s : List Char) : List Char :=
  match section? s with
  | some inner => inner
  | none => decodeEntities s

/-- The name in a property element; a blank one counts as absent. -/
def name? (body : List Char) : Option String :=
  match (Mark.element "name".toList).find? body with
  | none => none
  | some (_, content, _) =>
      let name := trim (decodeText content)
      if name.isEmpty then none else some (String.ofList name)

def value? (body : List Char) : Option String :=
  match Mark.value.find? body with
  | none => none
  | some (_, none, _) => some ""
  | some (_, some content, _) => some (String.ofList (decodeText content))

/-- The entries of property elements, the first of which has the given number. -/
def entries? (number : Nat) : List (List Char) → Except Fault (List (String × String))
  | [] => .ok []
  | body :: rest =>
      match name? body with
      | none => .error (.noName number)
      | some name =>
          match entries? (number + 1) rest with
          | .error fault => .error fault
          | .ok entries =>
              match value? body with
              | some value => .ok ((name, value) :: entries)
              | none => .ok entries

/-- Whether the text has the root element. -/
def hasRoot (s : List Char) : Bool :=
  ((Mark.text "<configuration".toList).find? s).isSome

def readChars (s : List Char) : Except Fault Configuration :=
  let s := withoutComments s
  if hasRoot s then (entries? 1 (propertyBodies s)).map Table.ofList
  else .error .noRoot

def read (s : String) : Except Fault Configuration :=
  readChars s.toList

def writeProperty (name value : String) : List Char :=
  "  <property>\n    <name>".toList ++ escape name.toList ++ "</name>\n    <value>".toList ++
    escape value.toList ++ "</value>\n  </property>\n".toList

def writeChars (config : Configuration) : List Char :=
  "<?xml version=\"1.0\" encoding=\"UTF-8\"?>\n<configuration>\n".toList ++
    (config.entries.flatMap fun (name, value) => writeProperty name value) ++
    "</configuration>\n".toList

def render (config : Configuration) : String :=
  String.ofList (writeChars config)

end ActionLauncher.SiteXml
