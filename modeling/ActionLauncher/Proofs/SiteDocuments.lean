import ActionLauncher.Proofs.SiteRoundTrip

/-!
Site documents as people write them: property elements with attributes, white space in their tags,
other elements around the name and the value, in whatever order.  The reader pairs no tag with one
of another element, so what it makes of a document is what its properties say one by one.
-/

namespace ActionLauncher

namespace Text

theorem isWord_of_isWhite {c : Char} (h : isWhite c = true) : isWord c = false := by
  have hwords : ∀ n ∈ [0x9, 0xA, 0xB, 0xC, 0xD, 0x20, 0x85, 0xA0, 0x1680, 0x2000, 0x2001, 0x2002,
      0x2003, 0x2004, 0x2005, 0x2006, 0x2007, 0x2008, 0x2009, 0x200A, 0x2028, 0x2029, 0x202F,
      0x205F, 0x3000], isWord (Char.ofNat n) = false := by
    decide +kernel
  rw [← Char.ofNat_toNat c]
  refine hwords _ ?_
  simp only [isWhite, Bool.or_eq_true, Bool.and_eq_true, decide_eq_true_eq, beq_iff_eq] at h
  simp only [List.mem_cons, List.not_mem_nil, or_false]
  omega

end Text

namespace SiteXml

open Text.Chars

/-- White space before the end of a tag. -/
abbrev White : Type :=
  { s : List Char // ∀ c ∈ s, Text.isWhite c = true }

/-- The content of an element: a text in which no tag starts. -/
abbrev Content : Type :=
  { s : List Char // '<' ∉ s }

/-- What stands between the properties of a document. -/
abbrev Gap : Type :=
  { s : List Char // Free ('<' :: "property".toList) s }

/-- An element of a property that the reader looks for. -/
inductive Part
  | name (white : White) (content : Content) (white' : White)
  | value (white : White) (content : Content) (white' : White)
  | emptyValue (white : White)

/-- What stands around the name and the value of a property. -/
structure Filler where
  text : List Char
  noName : Free ('<' :: "name".toList) text
  noValue : Free ('<' :: "value".toList) text
  noEnd : Free ('<' :: '/' :: "property".toList) text

/-- A property element.  It may have any number of names and values, of which the first count. -/
structure Property where
  attributes : List Char
  separated : ∀ c ∈ attributes.head?, Text.isWhite c = true
  noEnd : '>' ∉ attributes
  front : Filler
  /-- The names and values, each with what follows it. -/
  parts : List (Part × Filler)
  white : White

/-- A site document, its properties each with the gap that follows it. -/
structure Document where
  front : Gap
  properties : List (Property × Gap)

namespace Part

def text : Part → List Char
  | name white content white' =>
      Mark.elementText "name".toList white.val content.val white'.val
  | value white content white' =>
      Mark.elementText "value".toList white.val content.val white'.val
  | emptyValue white => '<' :: "value".toList ++ white.val ++ ['/', '>']

def name? : Part → Option (List Char)
  | name _ content _ => some content.val
  | _ => none

def value? : Part → Option (List Char)
  | name _ _ _ => none
  | value _ content _ => some (decodeEntities content.val)
  | emptyValue _ => some []

end Part

/-- The text of names and values with what follows each. -/
def partsText (parts : List (Part × Filler)) : List Char :=
  parts.flatMap fun part => part.1.text ++ part.2.text

namespace Property

def body (property : Property) : List Char :=
  property.front.text ++ partsText property.parts

def text (property : Property) : List Char :=
  Mark.propertyText property.attributes property.body property.white.val

/-- The trimmed name; one that is blank counts as absent. -/
def name? (property : Property) : Option String :=
  (property.parts.findSome? fun part => part.1.name?).bind fun content =>
    let name := decodeEntities content
    if isBlank name then none else some (String.ofList (trim name))

def value? (property : Property) : Option String :=
  (property.parts.findSome? fun part => part.1.value?).map String.ofList

def pair? (property : Property) : Option (String × String) :=
  property.name?.bind fun name => property.value?.map fun value => (name, value)

end Property

namespace Document

def text (document : Document) : List Char :=
  document.front.val ++
    document.properties.flatMap fun property => property.1.text ++ property.2.val

def nameless? (document : Document) : Option Nat :=
  document.properties.findIdx? fun property => property.1.name?.isNone

/-- The entries of the properties that have a value, in order. -/
def entries (document : Document) : List (String × String) :=
  document.properties.filterMap fun property => property.1.pair?

end Document

section Free

variable {u a b content white white' : List Char}

theorem not_mem_white (h : ∀ c ∈ white, Text.isWhite c = true) : '<' ∉ white := fun hmem =>
  absurd (h '<' hmem) (by decide)

/-- An occurrence that starts before the end of a tag does not go on behind it. -/
theorem free_append_of_end (ha : Free ('<' :: u) (a ++ ['>'])) (hb : Free ('<' :: u) b)
    (hu : '>' ∉ u) : Free ('<' :: u) (a ++ ['>'] ++ b) := by
  have hfront : Free ('<' :: u) a := fun hoccurs =>
    ha (hoccurs.trans (List.prefix_append a ['>']).isInfix)
  have hrest : Free ('<' :: u) ('>' :: b) := by
    intro hoccurs
    rcases List.infix_cons_iff.1 hoccurs with hstart | hoccurs
    · exact absurd (List.cons_prefix_cons.1 hstart).1 (by decide)
    · exact hb hoccurs
  rw [List.append_assoc, List.singleton_append]
  exact free_append hfront hrest (by simpa using hu)

theorem free_elementText {name : List Char} (hu : '<' ∉ u) (hname : '<' ∉ name)
    (hwhite : '<' ∉ white) (hwhite' : '<' ∉ white') (hcontent : '<' ∉ content)
    (hopen : ∀ s, ¬ u <+: name ++ s) (hclose : ∀ s, ¬ u <+: '/' :: name ++ s) :
    Free ('<' :: u) (Mark.elementText name white content white') := by
  have hsplit : Mark.elementText name white content white' =
      '<' :: (name ++ (white ++ '>' :: content)) ++ '<' :: ('/' :: name ++ (white' ++ ['>'])) := by
    simp [Mark.elementText, Mark.opened, Mark.closed]
  rw [hsplit]
  refine free_append (free_cons ?_ (hopen _)) (free_cons ?_ (hclose _)) (by simpa using hu)
  · simp [hname, hwhite, hcontent]
  · simp [hname, hwhite']

end Free

namespace Part

variable {u : List Char}

theorem text_ends (part : Part) : ∃ front, part.text = front ++ ['>'] := by
  cases part with
  | name white content white' => exact ⟨_, (List.append_assoc _ _ _).symm⟩
  | value white content white' => exact ⟨_, (List.append_assoc _ _ _).symm⟩
  | emptyValue white => exact ⟨'<' :: "value".toList ++ white.val ++ ['/'], by simp [text]⟩

theorem head?_text (part : Part) (rest : List Char) : (part.text ++ rest).head? = some '<' := by
  cases part <;> rfl

theorem free_text (part : Part) (hu : '<' ∉ u)
    (hname : part.name?.isSome → ∀ s, ¬ u <+: "name".toList ++ s)
    (hvalue : part.value?.isSome → ∀ s, ¬ u <+: "value".toList ++ s)
    (hclose : ∀ s, ¬ u <+: '/' :: 'n' :: s ∧ ¬ u <+: '/' :: 'v' :: s) :
    Free ('<' :: u) part.text := by
  cases part with
  | name white content white' =>
      exact free_elementText hu (by decide) (not_mem_white white.2) (not_mem_white white'.2)
        content.2 (hname rfl) fun s => (hclose _).1
  | value white content white' =>
      exact free_elementText hu (by decide) (not_mem_white white.2) (not_mem_white white'.2)
        content.2 (hvalue rfl) fun s => (hclose _).2
  | emptyValue white =>
      have hsplit : (emptyValue white).text =
          '<' :: ("value".toList ++ (white.val ++ ['/', '>'])) := by
        simp [text]
      rw [hsplit]
      refine free_cons ?_ (hvalue rfl _)
      simp [not_mem_white white.2]

theorem free_append (part : Part) {front filler : List Char} (hu : '<' ∉ u) (hend : '>' ∉ u)
    (hfront : Free ('<' :: u) front) (hpart : Free ('<' :: u) part.text)
    (hfiller : Free ('<' :: u) filler) : Free ('<' :: u) (front ++ (part.text ++ filler)) := by
  obtain ⟨tag, htag⟩ := part.text_ends
  refine SiteXml.free_append hfront ?_ ?_
  · rw [htag] at hpart ⊢
    exact free_append_of_end hpart hfiller hend
  · rw [part.head?_text]
    simpa using hu

end Part

theorem Property.free_body (property : Property) :
    Free ('<' :: '/' :: "property".toList) property.body := by
  have hparts (parts : List (Part × Filler)) (front : List Char)
      (hfront : Free ('<' :: '/' :: "property".toList) front) :
      Free ('<' :: '/' :: "property".toList) (front ++ partsText parts) := by
    induction parts generalizing front with
    | nil => rwa [partsText, List.flatMap_nil, List.append_nil]
    | cons part parts ih =>
        obtain ⟨part, filler⟩ := part
        have hpart : Free ('<' :: '/' :: "property".toList) part.text :=
          part.free_text (by decide) (fun _ => by simp) (fun _ => by simp) (by simp)
        have hnext := part.free_append (by decide) (by decide) hfront hpart filler.noEnd
        rw [partsText, List.flatMap_cons, ← List.append_assoc]
        exact ih _ hnext
  exact hparts property.parts _ property.front.noEnd

theorem decodeText_of_not_mem {s : List Char} (h : '<' ∉ s) : decodeText s = decodeEntities s := by
  rw [decodeText, section?_of_not_mem h]

theorem name?_of_free {s : List Char} (h : Free ('<' :: "name".toList) s) : name? s = none := by
  rw [name?, Mark.find?_eq_none (Mark.element_startsWith "name".toList) h]

theorem value?_of_free {s : List Char} (h : Free ('<' :: "value".toList) s) : value? s = none := by
  rw [value?, Mark.find?_eq_none Mark.value_startsWith h]

theorem value?_emptyValue {front : List Char} (hfront : Free ('<' :: "value".toList) front)
    (white : White) (rest : List Char) :
    value? (front ++ ((Part.emptyValue white).text ++ rest)) = some "" := by
  have htrim : trimStart (white.val ++ '/' :: '>' :: rest) = '/' :: '>' :: rest := by
    rw [trimStart, List.dropWhile_append_of_pos white.2]
    rfl
  have hsplit : (Part.emptyValue white).text ++ rest =
      '<' :: "value".toList ++ (white.val ++ '/' :: '>' :: rest) := by
    simp [Part.text]
  have hempty : Mark.emptyTag "value".toList ((Part.emptyValue white).text ++ rest) =
      some ((), rest) := by
    rw [hsplit, Mark.emptyTag, Mark.followedBy, Mark.text_append, Option.bind_some]
    show Mark.tagEnd true (white.val ++ '/' :: '>' :: rest) = _
    rw [Mark.tagEnd, htrim]
    exact Mark.text_append ['/', '>'] rest
  have hvalue : Mark.value ((Part.emptyValue white).text ++ rest) = some (none, rest) := by
    rw [Mark.value, hempty]
  rw [value?, Mark.find?_append Mark.value_startsWith (by decide) hfront hvalue]

theorem name?_parts {front : List Char} (hfront : Free ('<' :: "name".toList) front)
    (parts : List (Part × Filler)) :
    name? (front ++ partsText parts) =
      (parts.findSome? fun part => part.1.name?).bind fun content =>
        if isBlank (decodeEntities content) then none
        else some (String.ofList (trim (decodeEntities content))) := by
  induction parts generalizing front with
  | nil =>
      rw [partsText, List.flatMap_nil, List.append_nil, name?_of_free hfront]
      rfl
  | cons part parts ih =>
      obtain ⟨part, filler⟩ := part
      rw [partsText, List.flatMap_cons, ← partsText, List.findSome?_cons]
      -- A name is found here; any other part is one more text before the first name.
      cases hname : part.name? with
      | some content =>
          cases part with
          | value white content white' => cases hname
          | emptyValue white => cases hname
          | name white content white' =>
              cases hname
              have hfound := name?_append hfront white.2 white'.2
                (free_of_not_mem (u := '/' :: "name".toList) content.2)
                (filler.text ++ partsText parts)
              rw [List.append_assoc]
              refine hfound.trans ?_
              rw [nameOf?, decodeText_of_not_mem content.2]
              rfl
      | none =>
          have hpart : Free ('<' :: "name".toList) part.text :=
            part.free_text (by decide) (by simp [hname]) (fun _ => by simp) (by simp)
          have hnext := part.free_append (by decide) (by decide) hfront hpart filler.noName
          rw [← List.append_assoc]
          exact ih hnext

theorem value?_parts {front : List Char} (hfront : Free ('<' :: "value".toList) front)
    (parts : List (Part × Filler)) :
    value? (front ++ partsText parts) =
      (parts.findSome? fun part => part.1.value?).map String.ofList := by
  induction parts generalizing front with
  | nil =>
      rw [partsText, List.flatMap_nil, List.append_nil, value?_of_free hfront]
      rfl
  | cons part parts ih =>
      obtain ⟨part, filler⟩ := part
      rw [partsText, List.flatMap_cons, ← partsText, List.findSome?_cons]
      cases part with
      | name white content white' =>
          have hpart : Free ('<' :: "value".toList) (Part.name white content white').text :=
            Part.free_text _ (by decide) (fun _ => by simp) (by simp [Part.value?]) (by simp)
          have hnext := Part.free_append _ (by decide) (by decide) hfront hpart filler.noValue
          rw [← List.append_assoc]
          exact ih hnext
      | value white content white' =>
          have hfound := value?_append hfront white.2 white'.2
            (free_of_not_mem (u := '/' :: "value".toList) content.2)
            (filler.text ++ partsText parts)
          rw [List.append_assoc]
          refine hfound.trans ?_
          rw [decodeText_of_not_mem content.2]
          rfl
      | emptyValue white =>
          rw [List.append_assoc]
          exact value?_emptyValue hfront white _

theorem Property.name?_body (property : Property) :
    SiteXml.name? property.body = property.name? :=
  name?_parts property.front.noName property.parts

theorem Property.value?_body (property : Property) :
    SiteXml.value? property.body = property.value? :=
  value?_parts property.front.noValue property.parts

theorem Property.isAttributes (property : Property) : Mark.IsAttributes property.attributes := by
  refine ⟨?_, property.noEnd⟩
  have hseparated := property.separated
  cases hattributes : property.attributes with
  | nil => rfl
  | cons c rest =>
      rw [hattributes] at hseparated
      show (!Text.isWord c) = true
      rw [Text.isWord_of_isWhite (hseparated c rfl)]
      rfl

theorem propertyBodies_document (document : Document) :
    propertyBodies document.text = document.properties.map fun property => property.1.body := by
  have hproperties (properties : List (Property × Gap)) (gap : Gap) :
      propertyBodies (gap.val ++
        properties.flatMap fun property => property.1.text ++ property.2.val) =
      properties.map fun property => property.1.body := by
    induction properties generalizing gap with
    | nil =>
        rw [List.flatMap_nil, List.append_nil, propertyBodies_of_free gap.2]
        rfl
    | cons property properties ih =>
        obtain ⟨property, next⟩ := property
        rw [List.flatMap_cons, List.append_assoc, List.map_cons, ← ih next]
        exact propertyBodies_append gap.2 property.isAttributes property.white.2
          property.free_body _
  exact hproperties document.properties document.front

theorem entries?_document (document : Document) :
    entries? 1 (propertyBodies document.text) =
      match document.nameless? with
      | some i => .error (.noName (i + 1))
      | none => .ok document.entries := by
  rw [propertyBodies_document, entries?_eq, List.findIdx?_map, List.filterMap_map]
  simp only [Function.comp_def, Property.name?_body, Property.value?_body]
  rw [← Document.nameless?]
  cases document.nameless? with
  | some i => simp only [Nat.add_comm 1]
  | none => rfl

theorem hasRoot_of_infix {s : List Char} (h : "<configuration".toList <:+: s) :
    hasRoot s = true := by
  obtain ⟨front, rest, rfl⟩ := h
  rw [List.append_assoc]
  exact hasRoot_append front rest

/-- A document without comments is refused for its first property without a name, and read
otherwise: as the entries of those properties that have a value, set one after another, so that a
repeated name keeps its first place and takes its last value. -/
theorem ofText_document (document : Document)
    (hcomments : Free ('<' :: "!--".toList) document.text)
    (hroot : "<configuration".toList <:+: document.text) :
    (Resource.ofText (String.ofList document.text) =
      match document.nameless? with
      | some i => .error (.malformed ("property #" ++ Text.decimal (i + 1) ++ " has no <name>"))
      | none => .ok (.ofList document.entries)) ∧
    (Table.ofList document.entries).keys = (document.entries.map Prod.fst).eraseDups ∧
    ∀ key, (Table.ofList document.entries).get? key = document.entries.reverse.lookup key := by
  refine ⟨?_, Table.keys_ofList _, Table.get?_ofList _⟩
  rw [Resource.ofText, read, String.toList_ofList]
  unfold readChars
  dsimp only
  rw [withoutComments_of_free hcomments, hasRoot_of_infix hroot, if_pos rfl, entries?_document]
  cases document.nameless? with
  | some i => rfl
  | none => rfl

def White.none : White :=
  ⟨[], by simp⟩

def Filler.plain (s : List Char) (h : '<' ∉ s) : Filler :=
  ⟨s, free_of_not_mem h, free_of_not_mem h, free_of_not_mem h⟩

/-- A property without attributes and without white space in its closing tag. -/
def Property.bare (parts : List (Part × Filler)) : Property where
  attributes := []
  separated := by simp
  noEnd := by simp
  front := .plain [] (by simp)
  parts := parts
  white := .none

/-- A document with attributes, another element, a value before its name, a name without value and
a name that comes twice. -/
def handwritten : Document where
  front := ⟨"<configuration>\n".toList, by decide +kernel⟩
  properties :=
    [({ attributes := " id='1'".toList
        separated := by simp [Text.isWhite]
        noEnd := by decide +kernel
        front := .plain "\n".toList (by decide +kernel)
        parts :=
          [(.value .none ⟨" a &amp; b ".toList, by decide +kernel⟩ .none,
              { text := "<final>true</final>".toList
                noName := by decide +kernel
                noValue := by decide +kernel
                noEnd := by decide +kernel }),
            (.name ⟨['\t'], by simp [Text.isWhite]⟩ ⟨" k ".toList, by decide +kernel⟩ .none,
              .plain [] (by simp))]
        white := ⟨['\n'], by simp [Text.isWhite]⟩ }, ⟨[' '], by decide +kernel⟩),
      (.bare [(.name .none ⟨['n'], by decide⟩ .none, .plain [] (by simp))],
        ⟨[], by decide +kernel⟩),
      (.bare [(.name .none ⟨['k'], by decide⟩ .none, .plain [] (by simp)),
          (.emptyValue ⟨[' '], by simp [Text.isWhite]⟩, .plain [] (by simp))],
        ⟨"</configuration>".toList, by decide +kernel⟩)]

theorem ofText_document_handwritten :
    Free ('<' :: "!--".toList) handwritten.text ∧
      "<configuration".toList <:+: handwritten.text ∧
      Resource.ofText (String.ofList handwritten.text) =
        .ok (.ofList [("k", " a & b "), ("k", "")]) ∧
      (Table.ofList [("k", " a & b "), ("k", "")]).get? "k" = some "" := by
  have hcomments : Free ('<' :: "!--".toList) handwritten.text := by
    decide +kernel
  have hroot : "<configuration".toList <:+: handwritten.text := by
    decide +kernel
  have hnamed : handwritten.nameless? = none := by
    decide +kernel
  have hentries : handwritten.entries = [("k", " a & b "), ("k", "")] := by
    decide +kernel
  obtain ⟨hread, -, hget⟩ := ofText_document handwritten hcomments hroot
  rw [hnamed, hentries] at hread
  rw [hentries] at hget
  exact ⟨hcomments, hroot, hread, hget "k"⟩

end SiteXml

end ActionLauncher
