import Mathlib.Tactic.SplitIfs
import ActionLauncher.Proofs.SiteMarks
import ActionLauncher.Proofs.TableLaws
import ActionLauncher.Proofs.Trimming
import ActionLauncher.Resource

namespace ActionLauncher

namespace SiteXml

open Text.Chars

theorem decodeEntities_cons {c : Char} (h : c ≠ '&') (s : List Char) :
    decodeEntities (c :: s) = c :: decodeEntities s := by
  rw [decodeEntities, if_neg h]

theorem decodeEntities_of_reference {c : Char} {s rest : List Char}
    (h : reference? s = some (c, rest)) : decodeEntities ('&' :: s) = c :: decodeEntities rest := by
  rw [decodeEntities, if_pos rfl]
  split
  · rename_i hfound
    rw [h] at hfound
    cases hfound
    rfl
  · rename_i hnone
    rw [h] at hnone
    exact absurd hnone (by simp)

theorem decodeEntities_escapeChar (c : Char) (rest : List Char) :
    decodeEntities (escapeChar c ++ rest) = c :: decodeEntities rest := by
  unfold escapeChar
  split_ifs with hamp hlt hgt hquot hapos
  · subst hamp
    exact decodeEntities_of_reference rfl
  · subst hlt
    exact decodeEntities_of_reference rfl
  · subst hgt
    exact decodeEntities_of_reference rfl
  · subst hquot
    exact decodeEntities_of_reference rfl
  · subst hapos
    exact decodeEntities_of_reference rfl
  · exact decodeEntities_cons hamp rest

theorem decodeEntities_escape_append (s rest : List Char) :
    decodeEntities (escape s ++ rest) = s ++ decodeEntities rest := by
  induction s with
  | nil => rfl
  | cons c s ih =>
      rw [escape, List.flatMap_cons, List.append_assoc, decodeEntities_escapeChar, ← escape, ih,
        List.cons_append]

theorem decodeEntities_escape (s : List Char) : decodeEntities (escape s) = s := by
  have h := decodeEntities_escape_append s []
  rwa [List.append_nil, decodeEntities, List.append_nil] at h

theorem not_mem_escape (s : List Char) : '<' ∉ escape s := by
  rw [escape, List.mem_flatMap]
  rintro ⟨c, -, hc⟩
  unfold escapeChar at hc
  split_ifs at hc with hamp hlt
  · exact absurd hc (by decide)
  · exact absurd hc (by decide)
  · exact absurd hc (by decide)
  · exact absurd hc (by decide)
  · exact absurd hc (by decide)
  · exact hlt (List.mem_singleton.1 hc).symm

theorem section?_of_not_mem {s : List Char} (h : '<' ∉ s) : section? s = none := by
  have hafter : after? "<![CDATA[".toList (trim s) = none := by
    rw [Option.eq_none_iff_forall_ne_some]
    intro rest hrest
    refine h (mem_of_mem_trim ?_)
    rw [eq_append_of_after? hrest]
    exact List.mem_append_left _ (by decide)
  rw [section?, hafter, Option.bind_none]

theorem decodeText_escape (s : List Char) : decodeText (escape s) = s := by
  rw [decodeText, section?_of_not_mem (not_mem_escape s), decodeEntities_escape]

/-- The name that the content of a name element gives, which is absent when it is blank. -/
def nameOf? (content : List Char) : Option String :=
  if isBlank (decodeText content) then none else some (String.ofList (trim (decodeText content)))

theorem name?_of_noStart {front content white white' : List Char}
    (hfront : ¬ Mark.HoldsStart "name".toList front) (hopen : ∀ c ∈ white, Text.isWhite c = true)
    (hclose : ∀ c ∈ white', Text.isWhite c = true)
    (hcontent : ¬ Mark.HoldsEnd "name".toList content) (rest : List Char) :
    name? (front ++ (Mark.elementText "name".toList white content white' ++ rest)) =
      nameOf? content := by
  have hfound := Mark.find?_element (by decide) hfront hopen hclose hcontent rest
  have hempty : (trim (decodeText content)).isEmpty = isBlank (decodeText content) := by
    rw [Bool.eq_iff_iff, List.isEmpty_iff, trim_eq_nil_iff]
  rw [name?, hfound]
  dsimp only
  rw [hempty, nameOf?]

theorem name?_append {front content white white' : List Char}
    (hfront : Free ('<' :: "name".toList) front) (hopen : ∀ c ∈ white, Text.isWhite c = true)
    (hclose : ∀ c ∈ white', Text.isWhite c = true)
    (hcontent : Free ('<' :: '/' :: "name".toList) content) (rest : List Char) :
    name? (front ++ (Mark.elementText "name".toList white content white' ++ rest)) =
      nameOf? content :=
  name?_of_noStart (Mark.not_holdsTag_of_free hfront) hopen hclose
    (Mark.not_holdsTag_of_free hcontent) rest

theorem value?_of_noEnd {front content white white' : List Char}
    (hfront : Free ('<' :: "value".toList) front) (hopen : ∀ c ∈ white, Text.isWhite c = true)
    (hclose : ∀ c ∈ white', Text.isWhite c = true)
    (hcontent : ¬ Mark.HoldsEnd "value".toList content) (rest : List Char) :
    value? (front ++ (Mark.elementText "value".toList white content white' ++ rest)) =
      some (String.ofList (decodeText content)) := by
  have hfound := Mark.find?_append Mark.value_startsWith (by decide) hfront
    (Mark.value_of_noEnd hopen hclose hcontent rest)
  rw [value?, hfound]

theorem value?_append {front content white white' : List Char}
    (hfront : Free ('<' :: "value".toList) front) (hopen : ∀ c ∈ white, Text.isWhite c = true)
    (hclose : ∀ c ∈ white', Text.isWhite c = true)
    (hcontent : Free ('<' :: '/' :: "value".toList) content) (rest : List Char) :
    value? (front ++ (Mark.elementText "value".toList white content white' ++ rest)) =
      some (String.ofList (decodeText content)) :=
  value?_of_noEnd hfront hopen hclose (Mark.not_holdsTag_of_free hcontent) rest

/-- What stands in a property element as the writer writes it. -/
def writtenContent (name value : String) : List Char :=
  "\n    ".toList ++ (Mark.elementText "name".toList [] (escape name.toList) [] ++
    ("\n    ".toList ++ (Mark.elementText "value".toList [] (escape value.toList) [] ++
      "\n  ".toList)))

theorem writeProperty_eq (name value : String) :
    writeProperty name value =
      "  ".toList ++ (Mark.propertyText [] (writtenContent name value) [] ++ "\n".toList) := by
  have hfront : "  <property>\n    <name>".toList = "  ".toList ++ ('<' :: "property".toList ++
      '>' :: ("\n    ".toList ++ Mark.opened "name".toList [])) := by
    simp [Mark.opened]
  have hmiddle : "</name>\n    <value>".toList =
      Mark.closed "name".toList [] ++ ("\n    ".toList ++ Mark.opened "value".toList []) := by
    simp [Mark.opened, Mark.closed]
  have hend : "</value>\n  </property>\n".toList = Mark.closed "value".toList [] ++
      ("\n  ".toList ++ (Mark.closed "property".toList [] ++ "\n".toList)) := by
    simp [Mark.closed]
  unfold writeProperty
  rw [hfront, hmiddle, hend]
  simp only [writtenContent, Mark.propertyText, Mark.elementText, List.append_assoc,
    List.cons_append, List.append_nil]

/-- The angle brackets in a written property are those of its name and its value. -/
theorem free_writtenContent {u : List Char} (hbracket : '<' ∉ u)
    (hname : ∀ s, ¬ u <+: 'n' :: s) (hvalue : ∀ s, ¬ u <+: 'v' :: s)
    (hname' : ∀ s, ¬ u <+: '/' :: 'n' :: s) (hvalue' : ∀ s, ¬ u <+: '/' :: 'v' :: s)
    (name value : String) : Free ('<' :: u) (writtenContent name value) := by
  have hsplit : writtenContent name value = "\n    ".toList ++
      ('<' :: ("name>".toList ++ escape name.toList) ++ ('<' :: "/name>\n    ".toList ++
        ('<' :: ("value>".toList ++ escape value.toList) ++ '<' :: "/value>\n  ".toList))) := by
    simp [writtenContent, Mark.elementText, Mark.opened, Mark.closed]
  have hescaped (tag : String) (htag : '<' ∉ tag.toList) (s : String) :
      '<' ∉ tag.toList ++ escape s.toList := by
    rw [List.mem_append, not_or]
    exact ⟨htag, not_mem_escape _⟩
  have hhead {s : List Char} : ∀ c ∈ ('<' :: s).head?, c ∉ u := by
    simpa using hbracket
  rw [hsplit]
  refine free_append (free_of_not_mem (by simp)) ?_ hhead
  refine free_append (free_cons (hescaped _ (by simp) name) (hname _)) ?_ hhead
  refine free_append (free_cons (by simp) ?_) ?_ hhead
  · simpa using hname' _
  refine free_append (free_cons (hescaped _ (by simp) value) (hvalue _)) ?_ hhead
  refine free_cons (by simp) ?_
  simpa using hvalue' _

theorem name?_writtenContent (name value : String) :
    name? (writtenContent name value) =
      if Text.isBlank name then none else some (Text.trim name) := by
  have hcontent : Free ('<' :: '/' :: "name".toList) (escape name.toList) :=
    free_of_not_mem (not_mem_escape _)
  have hwhite : ∀ c ∈ ([] : List Char), Text.isWhite c = true := by simp
  rw [writtenContent, name?_append (free_of_not_mem (by simp)) hwhite hwhite hcontent, nameOf?,
    decodeText_escape]
  rfl

theorem value?_writtenContent (name value : String) :
    value? (writtenContent name value) = some value := by
  have hfront : Free ('<' :: "value".toList) ("\n    ".toList ++
      ('<' :: ("name>".toList ++ escape name.toList) ++ '<' :: "/name>\n    ".toList)) := by
    refine free_append (free_of_not_mem (by simp)) ?_ (by simp)
    refine free_append (free_cons ?_ (by simp)) (free_cons (by simp) (by simp)) (by simp)
    rw [List.mem_append, not_or]
    exact ⟨by simp, not_mem_escape _⟩
  have hcontent : Free ('<' :: '/' :: "value".toList) (escape value.toList) :=
    free_of_not_mem (not_mem_escape _)
  have hwhite : ∀ c ∈ ([] : List Char), Text.isWhite c = true := by simp
  have hsplit : writtenContent name value = ("\n    ".toList ++
      ('<' :: ("name>".toList ++ escape name.toList) ++ '<' :: "/name>\n    ".toList)) ++
        (Mark.elementText "value".toList [] (escape value.toList) [] ++ "\n  ".toList) := by
    simp [writtenContent, Mark.elementText, Mark.opened, Mark.closed]
  rw [hsplit, value?_append hfront hwhite hwhite hcontent, decodeText_escape, String.ofList_toList]

theorem entries?_eq (number : Nat) (bodies : List (List Char)) :
    entries? number bodies =
      match bodies.findIdx? fun body => (name? body).isNone with
      | some i => .error (.noName (number + i))
      | none => .ok (bodies.filterMap fun body =>
          (name? body).bind fun name => (value? body).map fun value => (name, value)) := by
  induction bodies generalizing number with
  | nil => rfl
  | cons body rest ih =>
      rw [entries?, List.findIdx?_cons, List.filterMap_cons]
      cases name? body with
      | none => rfl
      | some name =>
          simp only [Option.isNone_some, Bool.false_eq_true, if_false, ih, Option.bind_some]
          cases rest.findIdx? fun body => (name? body).isNone with
          | some i =>
              simp only [Option.map_some]
              rw [Nat.add_assoc, Nat.add_comm 1]
          | none =>
              cases value? body with
              | none => rfl
              | some value => rfl

theorem entries?_written (number : Nat) (entries : List (String × String)) :
    entries? number (entries.map fun entry => writtenContent entry.1 entry.2) =
      match entries.findIdx? fun entry => Text.isBlank entry.1 with
      | some i => .error (.noName (number + i))
      | none => .ok (entries.map fun entry => (Text.trim entry.1, entry.2)) := by
  have hnone (name value : String) :
      (name? (writtenContent name value)).isNone = Text.isBlank name := by
    rw [name?_writtenContent]
    cases Text.isBlank name <;> rfl
  rw [entries?_eq, List.findIdx?_map, List.filterMap_map]
  simp only [Function.comp_def, hnone]
  cases hblank : entries.findIdx? fun entry => Text.isBlank entry.1 with
  | some i => rfl
  | none =>
      have hnames := List.findIdx?_eq_none_iff.1 hblank
      refine congrArg Except.ok
        (List.filterMap_eq_map_iff_forall_eq_some.2 fun entry hentry => ?_)
      rw [name?_writtenContent, hnames entry hentry, value?_writtenContent]
      rfl

theorem propertyBodies_written {gap : List Char} (hgap : Free ('<' :: "property".toList) gap)
    (entries : List (String × String)) :
    propertyBodies (gap ++ ((entries.flatMap fun entry => writeProperty entry.1 entry.2) ++
      "</configuration>\n".toList)) =
        entries.map fun entry => writtenContent entry.1 entry.2 := by
  -- The line feed behind a property is the gap before the next one.
  induction entries generalizing gap with
  | nil =>
      refine propertyBodies_of_free (free_append hgap ?_ (by simp))
      exact free_cons (u := "property".toList) (s := "/configuration>\n".toList) (by simp) (by simp)
  | cons entry rest ih =>
      have hcontent : Free ('<' :: '/' :: "property".toList)
          (writtenContent entry.1 entry.2) :=
        free_writtenContent (by simp) (by simp) (by simp) (by simp) (by simp) _ _
      have hfront : Free ('<' :: "property".toList) (gap ++ "  ".toList) :=
        free_append hgap (free_of_not_mem (by simp)) (by simp)
      have hwhite : ∀ c ∈ ([] : List Char), Text.isWhite c = true := by simp
      have hnext := propertyBodies_append hfront Mark.IsAttributes.nil hwhite hcontent
        ("\n".toList ++ ((rest.flatMap fun entry => writeProperty entry.1 entry.2) ++
          "</configuration>\n".toList))
      rw [ih (free_of_not_mem (by simp))] at hnext
      rw [List.flatMap_cons, writeProperty_eq, List.map_cons, ← hnext]
      simp only [List.append_assoc]

theorem free_writeProperty (name value : String) :
    Free ('<' :: "!--".toList) (writeProperty name value) := by
  have hcontent : Free ('<' :: "!--".toList) (writtenContent name value) :=
    free_writtenContent (by simp) (by simp) (by simp) (by simp) (by simp) _ _
  have hend : Free ('<' :: "!--".toList) (Mark.closed "property".toList [] ++ "\n".toList) :=
    free_cons (s := "/property>\n".toList) (by simp) (by simp)
  have hstart : Free ('<' :: "!--".toList) ('<' :: "property>".toList) :=
    free_cons (by simp) (by simp)
  have hsplit : writeProperty name value = "  ".toList ++ (('<' :: "property>".toList) ++
      (writtenContent name value ++ (Mark.closed "property".toList [] ++ "\n".toList))) := by
    rw [writeProperty_eq]
    simp [Mark.propertyText]
  rw [hsplit]
  refine free_append (free_of_not_mem (by simp)) ?_ (by simp)
  refine free_append hstart (free_append hcontent hend (by simp [Mark.closed])) ?_
  simp [writtenContent]

theorem head?_writeProperty_append (name value : String) (rest : List Char) :
    (writeProperty name value ++ rest).head? = some ' ' := by
  rw [writeProperty_eq, List.append_assoc, List.append_assoc]
  rfl

theorem free_writeProperties (entries : List (String × String)) :
    Free ('<' :: "!--".toList) ((entries.flatMap fun entry => writeProperty entry.1 entry.2) ++
      "</configuration>\n".toList) := by
  induction entries with
  | nil => exact free_cons (s := "/configuration>\n".toList) (by simp) (by simp)
  | cons entry rest ih =>
      rw [List.flatMap_cons, List.append_assoc]
      refine free_append (free_writeProperty _ _) ih ?_
      cases rest with
      | nil => simp
      | cons next rest =>
          rw [List.flatMap_cons, List.append_assoc, head?_writeProperty_append]
          simp

/-- What stands before the properties of a written document. -/
def writtenHeader : List Char :=
  '<' :: "?xml version=\"1.0\" encoding=\"UTF-8\"?>\n".toList ++ '<' :: "configuration>\n".toList

theorem writeChars_eq (config : Configuration) :
    writeChars config = writtenHeader ++
      ((config.entries.flatMap fun entry => writeProperty entry.1 entry.2) ++
        "</configuration>\n".toList) := by
  have hheader : "<?xml version=\"1.0\" encoding=\"UTF-8\"?>\n<configuration>\n".toList =
      writtenHeader := by
    simp [writtenHeader]
  unfold writeChars
  rw [hheader, List.append_assoc]

theorem free_writtenHeader {u : List Char} (hbracket : '<' ∉ u) (hxml : ∀ s, ¬ u <+: '?' :: s)
    (hroot : ∀ s, ¬ u <+: 'c' :: s) : Free ('<' :: u) writtenHeader := by
  refine free_append (free_cons (by simp) ?_) (free_cons (by simp) ?_) (by simpa using hbracket)
  · simpa using hxml _
  · simpa using hroot _

theorem withoutComments_writeChars (config : Configuration) :
    withoutComments (writeChars config) = writeChars config := by
  have hheader : Free ('<' :: "!--".toList) writtenHeader :=
    free_writtenHeader (by simp) (by simp) (by simp)
  rw [writeChars_eq]
  refine withoutComments_of_free (free_append hheader (free_writeProperties _) ?_)
  cases config.entries with
  | nil => simp
  | cons entry rest =>
      rw [List.flatMap_cons, List.append_assoc, head?_writeProperty_append]
      simp

theorem hasRoot_writeChars (config : Configuration) : hasRoot (writeChars config) = true := by
  have hsplit : writtenHeader = ('<' :: "?xml version=\"1.0\" encoding=\"UTF-8\"?>\n".toList) ++
      ("<configuration".toList ++ ">\n".toList) := by
    simp [writtenHeader]
  rw [writeChars_eq, hsplit, List.append_assoc, List.append_assoc]
  exact hasRoot_append _ _

theorem read_render (config : Configuration) :
    read (render config) =
      match config.keys.findIdx? Text.isBlank with
      | some i => .error (.noName (i + 1))
      | none => .ok (.ofList (config.entries.map fun entry => (Text.trim entry.1, entry.2))) := by
  have hheader : Free ('<' :: "property".toList) writtenHeader :=
    free_writtenHeader (by simp) (by simp) (by simp)
  have hbodies : propertyBodies (writeChars config) =
      config.entries.map fun entry => writtenContent entry.1 entry.2 := by
    rw [writeChars_eq, propertyBodies_written hheader]
  have hkeys : config.keys.findIdx? Text.isBlank =
      config.entries.findIdx? fun entry => Text.isBlank entry.1 :=
    List.findIdx?_map
  rw [read, render, String.toList_ofList]
  unfold readChars
  dsimp only
  rw [withoutComments_writeChars, hasRoot_writeChars, if_pos rfl, hbodies, entries?_written, hkeys]
  cases config.entries.findIdx? fun entry => Text.isBlank entry.1 with
  | some i => simp only [Except.map, Nat.add_comm 1]
  | none => rfl

/-- A written document is refused for its first blank key, and read otherwise: as the entries that
were written, each under its trimmed key.  Keys without white space around them come back as they
are, and so does the whole configuration. -/
theorem ofText_render (config : Configuration) :
    (Resource.ofText (render config) =
      match config.keys.findIdx? Text.isBlank with
      | some i => .error (.malformed ("property #" ++ Text.decimal (i + 1) ++ " has no <name>"))
      | none => .ok (.ofList (config.entries.map fun entry => (Text.trim entry.1, entry.2)))) ∧
    ((∀ key ∈ config.keys, Text.isBlank key = false ∧
        (∀ c ∈ key.toList.head?, Text.isWhite c = false) ∧
        ∀ c ∈ key.toList.getLast?, Text.isWhite c = false) →
      Resource.ofText (render config) = .ok config) := by
  have hread : Resource.ofText (render config) =
      match config.keys.findIdx? Text.isBlank with
      | some i => .error (.malformed ("property #" ++ Text.decimal (i + 1) ++ " has no <name>"))
      | none => .ok (.ofList (config.entries.map fun entry => (Text.trim entry.1, entry.2))) := by
    rw [Resource.ofText, read_render]
    cases config.keys.findIdx? Text.isBlank with
    | some i => rfl
    | none => rfl
  refine ⟨hread, fun hkeys => ?_⟩
  have hnone : config.keys.findIdx? Text.isBlank = none :=
    List.findIdx?_eq_none_iff.2 fun key hkey => (hkeys key hkey).1
  have hsame : (config.entries.map fun entry => (Text.trim entry.1, entry.2)) = config.entries := by
    refine (List.map_congr_left fun entry hentry => ?_).trans (List.map_id _)
    obtain ⟨-, hfirst, hlast⟩ := hkeys entry.1 (List.mem_map_of_mem hentry)
    rw [Text.trim, trim_eq_self hfirst hlast, String.ofList_toList, id]
  rw [hread, hnone]
  dsimp only
  rw [hsame, Table.ofList_entries]

/-- A configuration whose texts look like the marks of a document. -/
def lookalike : Configuration :=
  ⟨[("a&lt;", "<!--"), ("</name>", " ]]> ")], by simp⟩

theorem ofText_render_lookalike :
    lookalike.keys = ["a&lt;", "</name>"] ∧
      Resource.ofText (render lookalike) = .ok lookalike := by
  refine ⟨rfl, (ofText_render lookalike).2 ?_⟩
  have hkeys : lookalike.keys = ["a&lt;", "</name>"] := rfl
  rw [hkeys, List.forall_mem_cons, List.forall_mem_singleton]
  constructor
  · simp [Text.isBlank, isBlank, Text.isWhite]
  · simp [Text.isBlank, isBlank, Text.isWhite]

end SiteXml

end ActionLauncher
