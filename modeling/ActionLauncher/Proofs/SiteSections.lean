import ActionLauncher.Proofs.References
import ActionLauncher.Proofs.SiteComments
import ActionLauncher.Proofs.SiteDocuments

/-!
Sections, whose text is meant to be taken as it is.  The reader takes comments out and looks for
the ends of elements before it looks at what an element holds, so a section keeps the text that was
put into it when that text holds no whole comment and no end of an element around it.
-/

namespace ActionLauncher.SiteXml

open Text.Chars

variable {a b s : List Char}

def sectionText (s : List Char) : List Char :=
  '<' :: "![CDATA[".toList ++ s ++ "]]>".toList

theorem decodeText_sectionText (s : List Char) : decodeText (sectionText s) = s := by
  have hlast : (sectionText s).getLast? = some '>' := by
    rw [sectionText, List.getLast?_append]
    simp
  have htrim : trim (sectionText s) = sectionText s := by
    apply trim_eq_self
    · simp [sectionText, Text.isWhite]
    · rw [hlast]
      simp [Text.isWhite]
  have hsection : section? (sectionText s) = some s := by
    rw [section?, htrim, sectionText, List.append_assoc]
    show (after? "<![CDATA[".toList ("<![CDATA[".toList ++ _)).bind _ = _
    rw [after?_append, Option.bind_some, before?, List.reverse_append, after?_append,
      Option.map_some, List.reverse_reverse]
  rw [decodeText, hsection]

theorem withoutComments_sectionText (h : Free "<!--".toList s ∨ Free "-->".toList b) :
    withoutComments (sectionText s ++ b) =
      sectionText (withoutComments s) ++ withoutComments b := by
  have hopening (more : List Char) : withoutComments ('<' :: "![CDATA[".toList ++ more) =
      '<' :: "![CDATA[".toList ++ withoutComments more := by
    simp [withoutComments_cons]
  have hclosing : withoutComments ("]]>".toList ++ b) = "]]>".toList ++ withoutComments b := by
    simp [withoutComments_cons]
  have hmiddle : withoutComments (s ++ ("]]>".toList ++ b)) =
      withoutComments s ++ withoutComments ("]]>".toList ++ b) := by
    rcases h with h | h
    · rw [withoutComments_append_of_free h (by simp), withoutComments_of_free h]
    · apply withoutComments_append
      intro rest _ hno
      have hbehind : Free "-->".toList ("]>".toList ++ b) := by
        simp only [Free, String.reduceToList, List.cons_append, List.nil_append,
          List.infix_cons_iff, List.cons_prefix_cons, Char.reduceEq, false_and, false_or] at h ⊢
        exact h
      rw [withoutComments_of_not, withoutComments_of_not]
      · exact not_holdsComment_append_cons (a := []) (by decide) (by decide) hbehind
      · exact not_holdsComment_append_cons (by decide) hno hbehind
  rw [sectionText, sectionText, List.append_assoc, List.append_assoc, hopening, hmiddle, hclosing]
  simp only [List.append_assoc]

theorem holdsTag_of_section {t : List Char} (hopen : '[' ∉ t) (hclose : ']' ∉ t)
    (h : Mark.HoldsTag t (a ++ (sectionText s ++ b))) :
    Mark.HoldsTag t (a ++ "<![CDATA".toList) ∨ Mark.HoldsTag t s ∨
      Mark.HoldsTag t ("]>".toList ++ b) := by
  have hsplit : a ++ (sectionText s ++ b) =
      (a ++ "<![CDATA".toList) ++ '[' :: (s ++ ']' :: ("]>".toList ++ b)) := by
    simp [sectionText]
  rw [hsplit] at h
  rcases h.of_append_cons hopen (by decide) (by decide) with h | h
  · exact Or.inl h
  · exact Or.inr (h.of_append_cons hclose (by decide) (by decide))

theorem noEnd_sectionText (h : ¬ Mark.HoldsEnd "value".toList s) :
    ¬ Mark.HoldsEnd "value".toList (sectionText s) := by
  intro hend
  rw [← List.append_nil (sectionText s), ← List.nil_append (sectionText s ++ [])] at hend
  rcases holdsTag_of_section (by decide) (by decide) hend with hend | hend | hend
  · exact absurd hend (by decide)
  · exact h hend
  · exact absurd hend (by decide)

theorem not_holdsTag_of_section {u : List Char} (hu : '<' ∉ u ∧ '>' ∉ u ∧ '[' ∉ u ∧ ']' ∉ u)
    (hmarks : ¬ u <+: "value>".toList ∧ ¬ u <+: "![CDATA".toList ∧ ¬ u <+: "/value>".toList)
    (ha : Free ('<' :: u) a)
    (hs : ¬ Mark.HoldsTag ('<' :: u) s) (hb : Free ('<' :: u) b) :
    ¬ Mark.HoldsTag ('<' :: u)
      (a ++ (Mark.elementText "value".toList [] (sectionText s) [] ++ b)) := by
  have hsplit : a ++ (Mark.elementText "value".toList [] (sectionText s) [] ++ b) =
      (a ++ Mark.opened "value".toList []) ++
        (sectionText s ++ (Mark.closed "value".toList [] ++ b)) := by
    simp only [Mark.elementText, List.append_assoc]
  intro htag
  rw [hsplit] at htag
  rcases holdsTag_of_section (by simpa using hu.2.2.1) (by simpa using hu.2.2.2) htag with
    htag | htag | htag
  · refine Mark.not_holdsTag_of_free ?_ htag
    have hvalue : Free ('<' :: u) ('<' :: "value>".toList) := free_cons (by decide) hmarks.1
    have hmark : Free ('<' :: u) ('<' :: "![CDATA".toList) := free_cons (by decide) hmarks.2.1
    rw [List.append_assoc]
    have hvalueMark := free_append hvalue hmark (by simpa using hu.1)
    exact free_append ha hvalueMark (by simpa [Mark.opened] using hu.1)
  · exact hs htag
  · refine Mark.not_holdsTag_of_free ?_ htag
    have hmark : Free ('<' :: u) ("]>".toList ++ '<' :: "/value>".toList) :=
      free_append (free_of_not_mem (by decide)) (free_cons (by decide) hmarks.2.2)
        (by simpa using hu.1)
    exact free_append_of_end (a := "]></value".toList) hmark hb hu.2.1

/-- The number of the characters that the opening mark of a section has not. -/
def weight (s : List Char) : Nat :=
  s.countP fun c => c ∉ "<![CDATA[".toList

theorem weight_append (a b : List Char) : weight (a ++ b) = weight a + weight b :=
  List.countP_append

theorem weight_le (h : a.Sublist b) : weight a ≤ weight b :=
  h.countP_le

theorem suffix_of_splitFirst? {sep : Char} {before after : List Char}
    (h : splitFirst? sep s = some (before, after)) : after <:+ s := by
  induction s generalizing before with
  | nil => cases h
  | cons c s ih =>
      rw [splitFirst?] at h
      split at h
      · cases h
        exact List.suffix_cons c after
      · obtain ⟨⟨_, _⟩, hrest, heq⟩ := Option.map_eq_some_iff.1 h
        cases heq
        exact (ih hrest).trans (List.suffix_cons c s)

theorem suffix_of_reference? {c : Char} {rest : List Char} (h : reference? s = some (c, rest)) :
    rest <:+ s := by
  obtain ⟨⟨name, after⟩, hsplit, hreferent⟩ := Option.bind_eq_some_iff.1 h
  obtain ⟨_, -, heq⟩ := Option.map_eq_some_iff.1 hreferent
  cases heq
  exact suffix_of_splitFirst? hsplit

theorem weight_decodeEntities_le (s : List Char) : weight (decodeEntities s) ≤ weight s := by
  induction s using decodeEntities.induct with
  | case1 =>
      rw [decodeEntities]
  | case2 s d rest hreference _ ih =>
      -- The ampersand alone outweighs the character that the reference stands for.
      have hrest := weight_le (suffix_of_reference? hreference).sublist
      have hdecoded : weight (d :: decodeEntities rest) ≤ weight (decodeEntities rest) + 1 := by
        rw [weight, weight, List.countP_cons]
        split <;> omega
      have hampersand : weight ('&' :: s) = weight s + 1 := List.countP_cons_of_pos (by decide)
      rw [decodeEntities_of_reference hreference]
      omega
  | case3 s hnone ih =>
      rw [decodeEntities_of_no_reference hnone, weight, weight, List.countP_cons, List.countP_cons]
      exact Nat.add_le_add_right ih _
  | case4 c s hc ih =>
      rw [decodeEntities_cons hc, weight, weight, List.countP_cons, List.countP_cons]
      exact Nat.add_le_add_right ih _

theorem sublist_of_section? {inner : List Char} (h : section? s = some inner) :
    inner.Sublist s := by
  obtain ⟨rest, hopening, hclosing⟩ := Option.bind_eq_some_iff.1 h
  obtain ⟨reversed, hreversed, rfl⟩ := Option.map_eq_some_iff.1 hclosing
  have hrest : rest = reversed.reverse ++ "]]>".toList := by
    rw [← List.reverse_reverse rest, eq_append_of_after? hreversed, List.reverse_append,
      List.reverse_reverse]
  have htrim : (trim s).Sublist s := by
    rw [trim, trimEnd, trimStart, ← List.reverse_sublist, List.reverse_reverse]
    exact (List.dropWhile_sublist _).trans (List.dropWhile_sublist _).reverse
  refine List.Sublist.trans ?_ htrim
  rw [eq_append_of_after? hopening, hrest]
  exact (List.sublist_append_left _ _).trans (List.sublist_append_right _ _)

theorem weight_decodeText_le (s : List Char) : weight (decodeText s) ≤ weight s := by
  rw [decodeText]
  split
  · rename_i inner hsection
    exact weight_le (sublist_of_section? hsection)
  · exact weight_decodeEntities_le s

/-- A name that is written as it is. -/
structure IsName (name : List Char) : Prop where
  nonempty : name ≠ []
  trimmed : trim name = name
  noTag : '<' ∉ name
  noReference : '&' ∉ name

theorem IsName.nameOf? {name : List Char} (h : IsName name) :
    nameOf? name = some (String.ofList name) := by
  have hdecoded : decodeText name = name := by
    have hentities := decodeEntities_raw h.noReference []
    rw [decodeText_of_not_mem h.noTag]
    rwa [List.append_nil, decodeEntities, List.append_nil] at hentities
  have hblank : isBlank name = false := by
    rw [← Bool.not_eq_true, ← trim_eq_nil_iff, h.trimmed]
    exact h.nonempty
  rw [SiteXml.nameOf?, hdecoded, hblank, h.trimmed]
  rfl

/-- The text gives the name before any other name starts in it. -/
def GivesName (name s : List Char) : Prop :=
  ∃ (front : List Char) (white white' : White) (rest : List Char),
    Free ('<' :: "name".toList) front ∧
      s = front ++ (Mark.elementText "name".toList white.val name white'.val ++ rest)

/-- A document with one property and one value, but for the content of the value. -/
structure Frame where
  gap : Gap
  attributes : List Char
  isAttributes : Mark.IsAttributes attributes
  /-- What stands before the value in the property. -/
  left : List Char
  leftNoEnd : Free ('<' :: '/' :: "property".toList) left
  beforeNoValue : Free ('<' :: "value".toList)
    (gap.val ++ ('<' :: "property".toList ++ attributes ++ '>' :: left))
  /-- What stands behind the value in the property. -/
  right : List Char
  rightNoEnd : Free ('<' :: '/' :: "property".toList) right
  white : White
  back : Gap
  behindNoValue : Free ('<' :: "value".toList)
    (right ++ (Mark.closed "property".toList white.val ++ back.val))

namespace Frame

variable (frame : Frame) (content : List Char)

def before : List Char :=
  (frame.gap.val ++ ('<' :: "property".toList ++ frame.attributes ++ '>' :: frame.left)) ++
    Mark.opened "value".toList []

def behind : List Char :=
  Mark.closed "value".toList [] ++
    (frame.right ++ (Mark.closed "property".toList frame.white.val ++ frame.back.val))

def body : List Char :=
  frame.left ++ (Mark.elementText "value".toList [] content [] ++ frame.right)

theorem leftNoValue : Free ('<' :: "value".toList) frame.left := by
  intro hoccurs
  refine frame.beforeNoValue (hoccurs.trans (List.IsSuffix.isInfix ?_))
  exact (List.suffix_cons '>' frame.left).trans
    ((List.suffix_append _ _).trans (List.suffix_append _ _))

theorem before_append_behind : frame.before ++ (content ++ frame.behind) =
    frame.gap.val ++ (Mark.propertyText frame.attributes (frame.body content) frame.white.val ++
      frame.back.val) := by
  simp only [before, behind, body, Mark.propertyText, Mark.elementText, List.append_assoc,
    List.cons_append]

/-- The name of the property is given before the value, or behind it, and then the section may not
start another. -/
def Names (name s : List Char) : Prop :=
  GivesName name frame.left ∨ Free ('<' :: "name".toList) frame.left ∧
    ¬ Mark.HoldsStart "name".toList s ∧ GivesName name frame.right

variable {frame} {name s : List Char}

theorem noEnd_body (h : ¬ Mark.HoldsEnd "property".toList s) :
    ¬ Mark.HoldsEnd "property".toList (frame.body (sectionText s)) :=
  not_holdsTag_of_section (by decide) (by decide) frame.leftNoEnd h frame.rightNoEnd

theorem name?_body (hname : IsName name) (h : frame.Names name s) :
    SiteXml.name? (frame.body (sectionText s)) = some (String.ofList name) := by
  have hcontent : ¬ Mark.HoldsEnd "name".toList name :=
    Mark.not_holdsTag_of_free (free_of_not_mem hname.noTag)
  rcases h with ⟨front, white, white', rest, hfront, hleft⟩ |
    ⟨hleft, hs, front, white, white', rest, hfront, hright⟩
  · have hsplit : frame.body (sectionText s) =
        front ++ (Mark.elementText "name".toList white.val name white'.val ++
          (rest ++ (Mark.elementText "value".toList [] (sectionText s) [] ++ frame.right))) := by
      simp only [body, hleft, List.append_assoc]
    rw [hsplit, name?_of_noStart (Mark.not_holdsTag_of_free hfront) white.2 white'.2 hcontent,
      hname.nameOf?]
  · have hsplit : frame.body (sectionText s) =
        (frame.left ++ (Mark.elementText "value".toList [] (sectionText s) [] ++ front)) ++
          (Mark.elementText "name".toList white.val name white'.val ++ rest) := by
      simp only [body, hright, List.append_assoc]
    have hbefore : ¬ Mark.HoldsStart "name".toList
        (frame.left ++ (Mark.elementText "value".toList [] (sectionText s) [] ++ front)) :=
      not_holdsTag_of_section (by decide) (by decide) hleft hs hfront
    rw [hsplit, name?_of_noStart hbefore white.2 white'.2 hcontent, hname.nameOf?]

theorem value?_body (h : ¬ Mark.HoldsEnd "value".toList s) :
    SiteXml.value? (frame.body (sectionText s)) = some (String.ofList s) := by
  rw [body, value?_of_noEnd frame.leftNoValue (by simp) (by simp) (noEnd_sectionText h),
    decodeText_sectionText]

theorem entries?_section (hname : IsName name) (hnamed : frame.Names name s)
    (hvalue : ¬ Mark.HoldsEnd "value".toList s) (hproperty : ¬ Mark.HoldsEnd "property".toList s) :
    entries? 1 (propertyBodies (frame.before ++ (sectionText s ++ frame.behind))) =
      .ok [(String.ofList name, String.ofList s)] := by
  rw [before_append_behind, propertyBodies_of_noEnd frame.gap.2 frame.isAttributes frame.white.2
    (noEnd_body hproperty), propertyBodies_of_free frame.back.2, entries?, name?_body hname hnamed]
  dsimp only [entries?]
  rw [value?_body hvalue]

end Frame

theorem propertyBodies_sound {body : List Char} (h : body ∈ propertyBodies s) :
    body <:+: s ∧ ¬ Mark.HoldsEnd "property".toList body := by
  induction s using propertyBodies.induct with
  | case1 s hnone =>
      rw [propertyBodies] at h
      split at h
      · cases h
      · rename_i hsome
        rw [hnone] at hsome
        cases hsome
  | case2 s front first rest hfound _ ih =>
      have hbodies : propertyBodies s = first :: propertyBodies rest := by
        rw [propertyBodies]
        split
        · rename_i hnone
          rw [hfound] at hnone
          cases hnone
        · rename_i hsome
          rw [hfound] at hsome
          cases hsome
          rfl
      obtain ⟨place, rfl, hplace⟩ := Mark.find?_sound hfound
      obtain ⟨opened, hopened, hclosed⟩ := Mark.enclosed_sound hplace
      obtain ⟨after, hafter, hend⟩ := Option.bind_eq_some_iff.1 hopened
      split at hend
      · have hopening : opened <:+ front ++ place := by
          rw [eq_append_of_after? hafter]
          refine List.IsSuffix.trans ?_ ((List.suffix_append _ _).trans (List.suffix_append _ _))
          refine List.IsSuffix.trans ?_ (List.dropWhile_suffix (· != '>'))
          rw [Mark.text_sound hend]
          exact List.suffix_append _ _
        have hfirst := Mark.not_holdsTag_of_find? (List.cons_ne_nil _ _) hclosed
        obtain ⟨behind, rfl, hbehind⟩ := Mark.find?_sound hclosed
        rw [hbodies, List.mem_cons] at h
        rcases h with rfl | h
        · exact ⟨(List.prefix_append _ _).isInfix.trans hopening.isInfix, hfirst⟩
        · obtain ⟨hrest, hnone⟩ := ih h
          obtain ⟨white, -, rfl⟩ := Mark.tag_sound hbehind
          refine ⟨hrest.trans (List.IsInfix.trans ?_ hopening.isInfix), hnone⟩
          exact ((List.suffix_append _ _).trans (List.suffix_append _ _)).isInfix
      · cases hend

theorem value?_sound {body : List Char} {value : String} (h : value? body = some value) :
    value = "" ∨ ∃ white content white', (∀ c ∈ white, Text.isWhite c = true) ∧
      (∀ c ∈ white', Text.isWhite c = true) ∧
      Mark.elementText "value".toList white content white' <:+: body ∧
      ¬ Mark.HoldsEnd "value".toList content ∧ value = String.ofList (decodeText content) := by
  rw [value?] at h
  split at h
  · cases h
  · cases h
    exact Or.inl rfl
  · rename_i front content rest hfound
    cases h
    obtain ⟨place, rfl, hplace⟩ := Mark.find?_sound hfound
    unfold Mark.value at hplace
    split at hplace
    · cases hplace
    · obtain ⟨⟨_, _⟩, helement, heq⟩ := Option.map_eq_some_iff.1 hplace
      cases heq
      obtain ⟨white, white', hwhite, hwhite', rfl, hnone⟩ := Mark.element_sound helement
      refine Or.inr ⟨white, content, white', hwhite, hwhite', ?_, hnone, rfl⟩
      exact ⟨front, rest, List.append_assoc _ _ _⟩

theorem exists_value?_of_entries? {bodies : List (List Char)} {name value : String}
    (h : (entries? 1 bodies).map Table.ofList = .ok (.ofList [(name, value)])) :
    ∃ body ∈ bodies, value? body = some value := by
  rw [entries?_eq] at h
  split at h
  · cases h
  · have htable := Except.ok.inj h
    have hlookup := Table.get?_ofList [(name, value)] name
    rw [← htable, Table.get?_ofList, List.reverse_singleton, List.lookup_cons_self,
      List.lookup_eq_some_iff] at hlookup
    obtain ⟨front, rest, hentries, -⟩ := hlookup
    have hmem : (name, value) ∈ (bodies.filterMap fun body =>
        (name? body).bind fun name => (value? body).map fun value => (name, value)).reverse := by
      rw [hentries]
      exact List.mem_append_right _ List.mem_cons_self
    obtain ⟨body, hbody, hpair⟩ := List.mem_filterMap.1 (List.mem_reverse.1 hmem)
    obtain ⟨_, -, hvalue⟩ := Option.bind_eq_some_iff.1 hpair
    obtain ⟨_, hvalue, heq⟩ := Option.map_eq_some_iff.1 hvalue
    cases heq
    exact ⟨body, hbody, hvalue⟩

theorem start_behind {u front more rest : List Char} (hu : '<' ∉ u) (ha : Free ('<' :: u) a)
    (h : front ++ ('<' :: u ++ more) = a ++ '<' :: rest) :
    ∃ k, front = a ++ k ∧ k ++ ('<' :: u ++ more) = '<' :: rest := by
  rcases List.append_eq_append_iff.1 h with ⟨k, rfl, hk⟩ | ⟨k, rfl, hk⟩
  · cases k with
    | nil => exact ⟨[], by simp, hk⟩
    | cons c k =>
        have hstart : '<' :: u <+: c :: k :=
          prefix_of_prefix_append (List.cons_ne_nil c k) (by simpa using hu) ⟨more, hk⟩
        exact absurd (hstart.isInfix.trans (List.suffix_append front _).isInfix) ha
  · exact ⟨k, rfl, hk.symm⟩

section Converse

variable {frame : Frame} {white content white' rest : List Char}

theorem content_of_section (hwhite' : ∀ c ∈ white', Text.isWhite c = true)
    (hcontent : ¬ Mark.HoldsEnd "value".toList content)
    (h : content ++ (Mark.closed "value".toList white' ++ rest) = sectionText s ++ frame.behind) :
    content = sectionText s ∧ ¬ Mark.HoldsEnd "value".toList s ∨ weight content < weight s := by
  by_cases hs : Mark.HoldsEnd "value".toList s
  · right
    obtain ⟨white, hwhite, front, back, rfl⟩ := hs
    have hplace : content ++ (Mark.closed "value".toList white' ++ rest) =
        ('<' :: "![CDATA[".toList ++ front) ++ (Mark.closed "value".toList white ++
          (back ++ ("]]>".toList ++ frame.behind))) := by
      rw [h]
      simp [sectionText, Mark.closed]
    have hfront := Mark.prefix_of_noEnd (by decide) hcontent hwhite' hwhite hplace
    have hle := weight_le hfront.sublist
    have hmark : weight ('<' :: "![CDATA[".toList) = 0 := by decide
    have hend : weight ('<' :: '/' :: "value".toList) = 6 := by decide
    simp only [weight_append] at hle ⊢
    omega
  · left
    have hbehind : frame.behind = Mark.closed "value".toList [] ++ (frame.right ++
      (Mark.closed "property".toList frame.white.val ++ frame.back.val)) := rfl
    rw [hbehind] at h
    have hfront := Mark.prefix_of_noEnd (by decide) hcontent hwhite' (by simp) h
    have hback := Mark.prefix_of_noEnd (by decide) (noEnd_sectionText hs) (by simp) hwhite' h.symm
    exact ⟨hfront.eq_of_length_le hback.length_le, hs⟩

/-- What is read as the content of an element that starts in the section weighs less than the text
in it: the start of that element outweighs the end of the section. -/
theorem weight_of_inner {more inner : List Char} (hwhite : ∀ c ∈ white, Text.isWhite c = true)
    (hwhite' : ∀ c ∈ white', Text.isWhite c = true)
    (hcontent : ¬ Mark.HoldsEnd "value".toList content)
    (h : white ++ ['>'] ++ (content ++ (Mark.closed "value".toList white' ++ rest)) =
      inner ++ ']' :: ("]>".toList ++ frame.behind)) :
    weight content < weight (more ++ ('<' :: "value".toList ++ inner)) := by
  have hbracket : ']' ∉ white ++ ['>'] :=
    Mark.not_mem_tag (t := []) (by decide) (by decide) (by decide) hwhite
  obtain ⟨text, rfl, hrest⟩ := split_append_cons hbracket h
  have hclosed : text ++ ']' :: ("]>".toList ++ frame.behind) =
      (text ++ "]]>".toList) ++ (Mark.closed "value".toList [] ++ (frame.right ++
        (Mark.closed "property".toList frame.white.val ++ frame.back.val))) := by
    simp [Frame.behind]
  rw [hclosed] at hrest
  have hstart := Mark.prefix_of_noEnd (by decide) hcontent hwhite' (by simp) hrest
  have hle := weight_le hstart.sublist
  have hend : weight "]]>".toList = 3 := by decide
  have hstart : weight ('<' :: "value".toList) = 5 := by decide
  simp only [weight_append] at hle ⊢
  omega

theorem Frame.noValue_behind (frame : Frame) :
    Free ('<' :: "value".toList) ("]>".toList ++ frame.behind) := by
  have hsplit : "]>".toList ++ frame.behind = "]></value".toList ++ ['>'] ++
      (frame.right ++ (Mark.closed "property".toList frame.white.val ++ frame.back.val)) := by
    simp [Frame.behind, Mark.closed]
  have hmark : Free ('<' :: "value".toList) ("]></value".toList ++ ['>']) := by
    decide +kernel
  rw [hsplit]
  exact free_append_of_end hmark frame.behindNoValue (by decide)

theorem Frame.value_before {front more : List Char}
    (h : frame.before ++ "<![CDATA".toList = front ++ ('<' :: "value".toList ++ more)) :
    front ++ Mark.opened "value".toList [] = frame.before := by
  have hsplit : frame.before ++ "<![CDATA".toList =
      (frame.gap.val ++ ('<' :: "property".toList ++ frame.attributes ++ '>' :: frame.left)) ++
        '<' :: ("value>".toList ++ "<![CDATA".toList) := by
    simp [Frame.before, Mark.opened]
  rw [hsplit] at h
  obtain ⟨k, rfl, hk⟩ := start_behind (by decide) frame.beforeNoValue h.symm
  cases k with
  | nil => rw [List.append_nil, Frame.before]
  | cons c k =>
      have hnone : Free ('<' :: "value".toList) ("value>".toList ++ "<![CDATA".toList) := by
        decide +kernel
      rw [List.cons_append, List.cons.injEq] at hk
      exact absurd ⟨k, more, by rw [List.append_assoc, hk.2]⟩ hnone

/-- A value in the document is the section, if that holds no end of a value, or it weighs less
than the text of the section. -/
theorem content_of_infix (hwhite : ∀ c ∈ white, Text.isWhite c = true)
    (hwhite' : ∀ c ∈ white', Text.isWhite c = true)
    (hcontent : ¬ Mark.HoldsEnd "value".toList content)
    (h : Mark.elementText "value".toList white content white' <:+:
      frame.before ++ (sectionText s ++ frame.behind)) :
    content = sectionText s ∧ ¬ Mark.HoldsEnd "value".toList s ∨ weight content < weight s := by
  obtain ⟨front, rest, heq⟩ := h
  have hplace : front ++ ('<' :: "value".toList ++ (white ++ ['>'] ++ (content ++
      (Mark.closed "value".toList white' ++ rest)))) =
      (frame.before ++ "<![CDATA".toList) ++
        '[' :: (s ++ ']' :: ("]>".toList ++ frame.behind)) := by
    have hright : frame.before ++ (sectionText s ++ frame.behind) =
        (frame.before ++ "<![CDATA".toList) ++
          '[' :: (s ++ ']' :: ("]>".toList ++ frame.behind)) := by
      simp [sectionText]
    rw [← hright, ← heq]
    simp only [Mark.elementText, Mark.opened, List.append_assoc]
  rcases occurrence_append_cons (by decide) hplace with ⟨more, hbefore⟩ | ⟨more, hbehind⟩
  · have hrest : white ++ ['>'] ++ (content ++ (Mark.closed "value".toList white' ++ rest)) =
        '>' :: (sectionText s ++ frame.behind) := by
      rw [← Frame.value_before hbefore, Mark.elementText, Mark.opened, Mark.opened] at heq
      simpa only [List.append_assoc, List.cons_append, List.singleton_append, List.nil_append,
        List.append_cancel_left_eq, List.cons.injEq, true_and] using heq
    cases white with
    | nil => exact content_of_section hwhite' hcontent (List.cons.inj hrest).2
    | cons c white =>
        have hc := hwhite c List.mem_cons_self
        rw [(List.cons.inj hrest).1] at hc
        exact absurd hc (by decide)
  · rcases occurrence_append_cons (by decide) hbehind.symm with ⟨inner, rfl⟩ | ⟨more', hbehind⟩
    · rw [List.append_assoc, List.append_right_inj, List.append_assoc, List.append_right_inj]
        at hbehind
      exact Or.inr (weight_of_inner hwhite hwhite' hcontent hbehind.symm)
    · exact absurd ⟨more', _, by rw [List.append_assoc]; exact hbehind.symm⟩ frame.noValue_behind

end Converse

variable {frame : Frame} {name front back : List Char}

theorem readChars_section (hfront : withoutComments front = frame.before)
    (hback : withoutComments back = frame.behind) (hfree : Free "<!--".toList frame.before)
    (hroot : "<configuration".toList <:+: frame.before)
    (hapart : Free "<!--".toList s ∨ Free "-->".toList back) :
    readChars (front ++ (sectionText s ++ back)) =
      (entries? 1 (propertyBodies (frame.before ++
        (sectionText (withoutComments s) ++ frame.behind)))).map Table.ofList := by
  have hcomments : withoutComments (front ++ (sectionText s ++ back)) =
      frame.before ++ (sectionText (withoutComments s) ++ frame.behind) := by
    rw [withoutComments_append, hfront, withoutComments_sectionText hapart, hback]
    intro rest hrest _
    apply withoutComments_append_of_free
    · intro hoccurs
      rw [hfront] at hrest
      exact hfree (hoccurs.trans hrest.isInfix)
    · simp [sectionText]
  unfold readChars
  dsimp only
  rw [hcomments, hasRoot_of_infix (hroot.trans (List.prefix_append _ _).isInfix), if_pos rfl]

/-- A section in the one value of a document, whose comments apart from it are whole, is read as
that property's value, character for character, just when it holds no whole comment and no end of
the value or of the property: those are looked for before it is known to be a section. -/
theorem ofText_section (hfront : withoutComments front = frame.before)
    (hback : withoutComments back = frame.behind) (hfree : Free "<!--".toList frame.before)
    (hroot : "<configuration".toList <:+: frame.before) (hname : IsName name)
    (hnamed : frame.Names name s) (hapart : Free "<!--".toList s ∨ Free "-->".toList back) :
    Resource.ofText (String.ofList (front ++ (sectionText s ++ back))) =
        .ok (.ofList [(String.ofList name, String.ofList s)]) ↔
      ¬ HoldsComment s ∧ ¬ Mark.HoldsEnd "value".toList s ∧
        ¬ Mark.HoldsEnd "property".toList s := by
  have hread := readChars_section hfront hback hfree hroot hapart
  rw [Resource.ofText, read, String.toList_ofList]
  constructor
  · intro hok
    have hentries : (entries? 1 (propertyBodies (frame.before ++
        (sectionText (withoutComments s) ++ frame.behind)))).map Table.ofList =
        .ok (.ofList [(String.ofList name, String.ofList s)]) := by
      rw [← hread]
      cases hchars : readChars (front ++ (sectionText s ++ back)) with
      | error fault =>
          rw [hchars] at hok
          cases hok
      | ok config =>
          rw [hchars] at hok
          cases hok
          rfl
    obtain ⟨body, hbody, hvalue⟩ := exists_value?_of_entries? hentries
    obtain ⟨hwithin, hproperty⟩ := propertyBodies_sound hbody
    rcases value?_sound hvalue with
      hempty | ⟨white, content, white', hwhite, hwhite', helement, hcontent, hread⟩
    · obtain rfl : s = [] := String.ofList_injective hempty
      decide
    · have hs : s = decodeText content := String.ofList_injective hread
      rcases content_of_infix hwhite hwhite' hcontent (helement.trans hwithin) with
        ⟨hsection, hnone⟩ | hless
      · rw [hsection, decodeText_sectionText] at hs
        rw [← hs] at hsection hnone
        refine ⟨withoutComments_eq_self_iff.1 hs.symm, hnone, ?_⟩
        intro hend
        have htext : s <:+: content := by
          rw [hsection]
          exact ⟨_, _, rfl⟩
        have hinner : content <:+: Mark.elementText "value".toList white content white' :=
          ⟨_, _, rfl⟩
        exact hproperty (hend.mono (htext.trans (hinner.trans helement)))
      · -- The text weighs no more than what it was read of, and that weighs less.
        have hdecoded := weight_decodeText_le content
        have hremoved := weight_le (withoutComments_sublist s)
        rw [← hs] at hdecoded
        omega
  · rintro ⟨hcomment, hvalue, hproperty⟩
    rw [hread, withoutComments_of_not hcomment,
      Frame.entries?_section hname hnamed hvalue hproperty]
    rfl

def named : Frame where
  gap := ⟨"<configuration>".toList, by decide +kernel⟩
  attributes := []
  isAttributes := .nil
  left := Mark.elementText "name".toList [] ['k'] []
  leftNoEnd := by decide +kernel
  beforeNoValue := by decide +kernel
  right := []
  rightNoEnd := by decide +kernel
  white := .none
  back := ⟨"</configuration>\n".toList, by decide +kernel⟩
  behindNoValue := by decide +kernel

/-- Markup that the reader does not take for its own: other tags, references, and the start of a
comment that ends nowhere. -/
def foreignMarkup : List Char :=
  "<name>x</name></values>]] & &amp; --> <!--".toList

theorem ofText_section_foreignMarkup :
    withoutComments (commented [] [(" a ".toList, named.before)]) = named.before ∧
      withoutComments named.behind = named.behind ∧ Free "<!--".toList named.before ∧
      "<configuration".toList <:+: named.before ∧ IsName ['k'] ∧
      named.Names ['k'] foreignMarkup ∧ Free "-->".toList named.behind ∧
      Resource.ofText (String.ofList (commented [] [(" a ".toList, named.before)] ++
        (sectionText foreignMarkup ++ named.behind))) =
          .ok (.ofList [(String.ofList ['k'], String.ofList foreignMarkup)]) := by
  have hfree : Free "<!--".toList named.before := by
    decide +kernel
  have hfront : withoutComments (commented [] [(" a ".toList, named.before)]) = named.before := by
    have hremoved : withoutComments (commented [] [(" a ".toList, named.before)]) =
        [] ++ [(" a ".toList, named.before)].flatMap Prod.snd :=
      withoutComments_commented (by simpa using hfree) (by decide +kernel)
    simpa using hremoved
  have hbehind : withoutComments named.behind = named.behind :=
    withoutComments_of_free (by decide +kernel)
  have hroot : "<configuration".toList <:+: named.before := by
    decide +kernel
  have hname : IsName ['k'] := ⟨by decide, by decide +kernel, by decide, by decide⟩
  have hnamed : named.Names ['k'] foreignMarkup :=
    Or.inl ⟨[], .none, .none, [], by decide +kernel, by decide +kernel⟩
  have hapart : Free "-->".toList named.behind := by
    decide +kernel
  have hkept : ¬ HoldsComment foreignMarkup ∧ ¬ Mark.HoldsEnd "value".toList foreignMarkup ∧
      ¬ Mark.HoldsEnd "property".toList foreignMarkup := by
    decide +kernel
  exact ⟨hfront, hbehind, hfree, hroot, hname, hnamed, hapart,
    (ofText_section hfront hbehind hfree hroot hname hnamed (Or.inr hapart)).2 hkept⟩

end ActionLauncher.SiteXml
