import ActionLauncher.SiteXml.Document

namespace ActionLauncher.SiteXml

open Text.Chars

/-- The text has no occurrence of `t`. -/
def Free (t s : List Char) : Prop :=
  ¬ t <:+: s

instance (t s : List Char) : Decidable (Free t s) :=
  inferInstanceAs (Decidable (¬ t <:+: s))

variable {u a b s : List Char}

theorem free_of_not_mem (h : '<' ∉ s) : Free ('<' :: u) s :=
  fun hoccurs => h (hoccurs.subset List.mem_cons_self)

theorem free_cons (hs : '<' ∉ s) (h : ¬ u <+: s) : Free ('<' :: u) ('<' :: s) := by
  intro hoccurs
  rcases List.infix_cons_iff.1 hoccurs with hstart | hoccurs
  · exact h (List.cons_prefix_cons.1 hstart).2
  · exact free_of_not_mem hs hoccurs

/-- No occurrence starts in one text and ends in the next, if this starts with a character that
no occurrence goes on with. -/
theorem prefix_of_prefix_append (ha : a ≠ []) (hb : ∀ c ∈ b.head?, c ∉ u)
    (h : '<' :: u <+: a ++ b) : '<' :: u <+: a := by
  obtain ⟨c, a, rfl⟩ := List.exists_cons_of_ne_nil ha
  obtain ⟨rfl, hstart⟩ := List.cons_prefix_cons.1 h
  refine List.cons_prefix_cons.2 ⟨rfl, ?_⟩
  rcases Nat.le_total u.length a.length with hlen | hlen
  · exact List.prefix_of_prefix_length_le hstart (List.prefix_append _ _) hlen
  · obtain ⟨r, rfl⟩ := List.prefix_of_prefix_length_le (List.prefix_append a b) hstart hlen
    have hr := (List.prefix_append_right_inj a).1 hstart
    cases r with
    | nil => simp
    | cons x r =>
        obtain ⟨rest, rfl⟩ := hr
        exact absurd (List.mem_append_right _ List.mem_cons_self) (hb x rfl)

theorem free_append (ha : Free ('<' :: u) a) (hb : Free ('<' :: u) b)
    (hhead : ∀ c ∈ b.head?, c ∉ u) : Free ('<' :: u) (a ++ b) := by
  induction a with
  | nil => exact hb
  | cons c a ih =>
      -- An occurrence starts here, and then it ends in the first text, or it starts further on.
      intro hoccurs
      rcases List.infix_cons_iff.1 hoccurs with hstart | hoccurs
      · exact ha (prefix_of_prefix_append (by simp) hhead hstart).isInfix
      · exact ih (fun h => ha (h.trans (List.suffix_cons c a).isInfix)) hoccurs

theorem split_append_cons {t rest : List Char} {c : Char} (hc : c ∉ t)
    (h : t ++ rest = a ++ c :: b) : ∃ more, a = t ++ more ∧ rest = more ++ c :: b := by
  rcases List.append_eq_append_iff.1 h with ⟨more, ha, hrest⟩ | ⟨t', ht, hrest⟩
  · exact ⟨more, ha, hrest⟩
  · cases t' with
    | nil => exact ⟨[], by simpa using ht.symm, hrest.symm⟩
    | cons d t' =>
        cases hrest
        exact absurd (ht ▸ List.mem_append_right _ List.mem_cons_self) hc

theorem occurrence_append_cons {t front behind : List Char} {c : Char} (hc : c ∉ t)
    (h : front ++ (t ++ behind) = a ++ c :: b) :
    (∃ more, a = front ++ (t ++ more)) ∨ ∃ more, b = more ++ (t ++ behind) := by
  rcases List.append_eq_append_iff.1 h with ⟨a', rfl, hrest⟩ | ⟨front', rfl, hrest⟩
  · obtain ⟨more, rfl, -⟩ := split_append_cons hc hrest
    exact Or.inl ⟨more, rfl⟩
  · cases front' with
    | nil =>
        obtain ⟨more, hnil, -⟩ := split_append_cons (a := []) hc hrest.symm
        exact Or.inl ⟨more, by rw [← hnil, List.append_nil, List.append_nil]⟩
    | cons d more =>
        cases hrest
        exact Or.inr ⟨more, rfl⟩

theorem infix_of_infix_append_cons {t : List Char} {c : Char} (hc : c ∉ t)
    (h : t <:+: a ++ c :: b) : t <:+: a ∨ t <:+: b := by
  obtain ⟨front, behind, heq⟩ := h
  rw [List.append_assoc] at heq
  rcases occurrence_append_cons hc heq with ⟨more, rfl⟩ | ⟨more, rfl⟩
  · exact Or.inl ⟨front, more, List.append_assoc _ _ _⟩
  · exact Or.inr ⟨more, behind, List.append_assoc _ _ _⟩

namespace Mark

variable {α : Type} {mark : Mark α} {t : List Char}

/-- The mark is recognised only where the text starts with `t`. -/
def StartsWith (mark : Mark α) (t : List Char) : Prop :=
  ∀ s found, mark s = some found → t <+: s

theorem StartsWith.eq_none (h : mark.StartsWith t) (hs : ¬ t <+: s) : mark s = none :=
  Option.eq_none_iff_forall_ne_some.2 fun found hfound => hs (h s found hfound)

theorem find?_eq_none (h : mark.StartsWith t) (hs : Free t s) : mark.find? s = none := by
  have hmark : mark s = none := h.eq_none fun hstart => hs hstart.isInfix
  induction s with
  | nil => rw [find?, hmark, Option.map_none]
  | cons c s ih =>
      have hrest : Free t s := fun hoccurs => hs (hoccurs.trans (List.suffix_cons c s).isInfix)
      rw [find?, hmark, ih hrest (h.eq_none fun hstart => hrest hstart.isInfix),
        Option.map_none]

theorem find?_of_recognised {found : α} {rest : List Char} (h : mark s = some (found, rest)) :
    mark.find? s = some ([], found, rest) := by
  cases s with
  | nil => rw [find?, h, Option.map_some]
  | cons c s => rw [find?, h]

theorem find?_append_of_none (h : ∀ x y, a = x ++ y → y ≠ [] → mark (y ++ s) = none) :
    mark.find? (a ++ s) = (mark.find? s).map fun (front, found) => (a ++ front, found) := by
  induction a with
  | nil =>
      rw [List.nil_append]
      exact Option.map_id'.symm
  | cons c a ih =>
      have hmark : mark (c :: (a ++ s)) = none := h [] (c :: a) rfl (List.cons_ne_nil c a)
      have hrest : ∀ x y, a = x ++ y → y ≠ [] → mark (y ++ s) = none := by
        intro x y heq hne
        exact h (c :: x) y (congrArg (c :: ·) heq) hne
      rw [List.cons_append, find?, hmark, ih hrest, Option.map_map]
      rfl

theorem find?_append_of_free (h : mark.StartsWith ('<' :: u)) (ha : Free ('<' :: u) a)
    (hs : ∀ c ∈ s.head?, c ∉ u) :
    mark.find? (a ++ s) = (mark.find? s).map fun (front, found) => (a ++ front, found) := by
  apply find?_append_of_none
  intro x y heq hne
  apply h.eq_none
  intro hstart
  exact ha ((prefix_of_prefix_append hne hs hstart).isInfix.trans ⟨x, [], by simp [heq]⟩)

/-- A mark is found behind whatever is free of its start. -/
theorem find?_append (h : mark.StartsWith ('<' :: u)) (hu : '<' ∉ u) {found : α}
    {rest : List Char} (ha : Free ('<' :: u) a) (hs : mark s = some (found, rest)) :
    mark.find? (a ++ s) = some (a, found, rest) := by
  obtain ⟨more, rfl⟩ := h s _ hs
  rw [find?_append_of_free h ha (by simpa using hu), find?_of_recognised hs]
  simp

theorem find?_sound {front rest : List Char} {found : α}
    (h : mark.find? s = some (front, found, rest)) :
    ∃ place, s = front ++ place ∧ mark place = some (found, rest) := by
  induction s generalizing front with
  | nil =>
      obtain ⟨⟨found, rest⟩, hmark, heq⟩ := Option.map_eq_some_iff.1 h
      cases heq
      exact ⟨[], rfl, hmark⟩
  | cons c s ih =>
      rw [find?] at h
      split at h
      · rename_i hmark
        cases h
        exact ⟨c :: s, rfl, hmark⟩
      · obtain ⟨⟨before, found, rest⟩, hrest, heq⟩ := Option.map_eq_some_iff.1 h
        cases heq
        obtain ⟨place, rfl, hplace⟩ := ih hrest
        exact ⟨place, rfl, hplace⟩

theorem find?_first {front rest before place : List Char} {found other : α} {rest' : List Char}
    (h : mark.find? (before ++ place) = some (front, found, rest))
    (hplace : mark place = some (other, rest')) : front.length ≤ before.length := by
  induction before generalizing front with
  | nil =>
      rw [List.nil_append, find?_of_recognised hplace] at h
      cases h
      exact Nat.le_refl _
  | cons c before ih =>
      rw [List.cons_append, find?] at h
      split at h
      · cases h
        exact Nat.zero_le _
      · obtain ⟨⟨front, found, rest⟩, hrest, heq⟩ := Option.map_eq_some_iff.1 h
        cases heq
        exact Nat.succ_le_succ (ih hrest)

theorem text_append (t rest : List Char) : text t (t ++ rest) = some ((), rest) := by
  rw [text, after?_append, Option.map_some]

theorem text_sound {rest : List Char} {found : Unit} (h : text t s = some (found, rest)) :
    s = t ++ rest := by
  obtain ⟨rest', hrest, heq⟩ := Option.map_eq_some_iff.1 h
  cases heq
  exact eq_append_of_after? hrest

theorem isSome_find?_append {place : List Char} (h : (mark place).isSome) (front : List Char) :
    (mark.find? (front ++ place)).isSome := by
  induction front with
  | nil =>
      obtain ⟨found, hfound⟩ := Option.isSome_iff_exists.1 h
      rw [List.nil_append, find?_of_recognised hfound]
      rfl
  | cons c front ih =>
      rw [List.cons_append, find?]
      split
      · rfl
      · rw [Option.isSome_map, ih]

theorem free_of_find?_text (ht : t ≠ []) {front rest : List Char} {found : Unit}
    (h : (text t).find? s = some (front, found, rest)) : Free t front := by
  rintro ⟨before, behind, rfl⟩
  obtain ⟨place, rfl, -⟩ := find?_sound h
  rw [List.append_assoc, List.append_assoc] at h
  have hfirst := find?_first h (text_append t (behind ++ place))
  have hlength := List.length_pos_iff.2 ht
  simp only [List.length_append] at hfirst
  omega

theorem text_startsWith (t : List Char) : (text t).StartsWith t := by
  intro s found hs
  exact ⟨found.2, (text_sound hs).symm⟩

theorem followedBy_startsWith {first : Mark Unit} (h : first.StartsWith t) (second : Mark Unit) :
    (followedBy first second).StartsWith t := by
  intro s found hs
  obtain ⟨opened, hopened, -⟩ := Option.bind_eq_some_iff.1 hs
  exact h s opened hopened

theorem enclosed_startsWith {opening : Mark Unit} (h : opening.StartsWith t)
    (closing : Mark Unit) : (enclosed opening closing).StartsWith t := by
  intro s found hs
  obtain ⟨opened, hopened, -⟩ := Option.bind_eq_some_iff.1 hs
  exact h s opened hopened

theorem openTagWithAttributes_startsWith (name : List Char) :
    (openTagWithAttributes name).StartsWith ('<' :: name) := by
  intro s found hs
  obtain ⟨rest, hrest, -⟩ := Option.bind_eq_some_iff.1 hs
  exact ⟨rest, (eq_append_of_after? hrest).symm⟩

theorem element_startsWith (name : List Char) : (element name).StartsWith ('<' :: name) :=
  enclosed_startsWith (followedBy_startsWith (text_startsWith _) _) _

theorem property_startsWith : property.StartsWith ('<' :: "property".toList) :=
  enclosed_startsWith (openTagWithAttributes_startsWith _) _

theorem comment_startsWith : comment.StartsWith "<!--".toList :=
  enclosed_startsWith (text_startsWith _) _

theorem value_startsWith : value.StartsWith ('<' :: "value".toList) := by
  intro s found hs
  unfold value at hs
  split at hs
  · rename_i hempty
    exact followedBy_startsWith (text_startsWith _) _ s _ hempty
  · obtain ⟨content, hcontent, -⟩ := Option.map_eq_some_iff.1 hs
    exact element_startsWith _ s _ hcontent

/-- The text `<name>`, with white space before its end. -/
def opened (name white : List Char) : List Char :=
  '<' :: name ++ white ++ ['>']

/-- The text `</name>`, with white space before its end. -/
def closed (name white : List Char) : List Char :=
  '<' :: '/' :: name ++ white ++ ['>']

theorem tagEnd_append {white : List Char} (h : ∀ c ∈ white, Text.isWhite c = true)
    (rest : List Char) : tagEnd false (white ++ '>' :: rest) = some ((), rest) := by
  have htrim : trimStart (white ++ '>' :: rest) = '>' :: rest := by
    rw [trimStart, List.dropWhile_append_of_pos h]
    rfl
  rw [tagEnd, htrim]
  exact text_append ['>'] rest

/-- A tag that starts with a given text. -/
abbrev tag (t : List Char) : Mark Unit :=
  followedBy (text t) (tagEnd false)

variable {name white : List Char}

theorem tag_append (h : ∀ c ∈ white, Text.isWhite c = true) (rest : List Char) :
    tag t (t ++ white ++ ['>'] ++ rest) = some ((), rest) := by
  rw [List.append_assoc, List.append_assoc, tag, followedBy, text_append, Option.bind_some]
  exact tagEnd_append h rest

theorem openTag_opened (h : ∀ c ∈ white, Text.isWhite c = true) (rest : List Char) :
    openTag name (opened name white ++ rest) = some ((), rest) :=
  tag_append h rest

theorem closeTag_closed (h : ∀ c ∈ white, Text.isWhite c = true) (rest : List Char) :
    closeTag name (closed name white ++ rest) = some ((), rest) :=
  tag_append h rest

theorem tag_sound {rest : List Char} {found : Unit} (h : tag t s = some (found, rest)) :
    ∃ white, (∀ c ∈ white, Text.isWhite c = true) ∧ s = t ++ white ++ ['>'] ++ rest := by
  obtain ⟨⟨_, behind⟩, hstart, hend⟩ := Option.bind_eq_some_iff.1 h
  have htrim : trimStart behind = ['>'] ++ rest := text_sound hend
  refine ⟨behind.takeWhile Text.isWhite, List.all_eq_true.1 List.all_takeWhile, ?_⟩
  rw [text_sound hstart, List.append_assoc, List.append_assoc, ← htrim]
  exact congrArg (t ++ ·) List.takeWhile_append_dropWhile.symm

/-- The text holds a whole tag that starts with `t`, with white space before its end. -/
def HoldsTag (t s : List Char) : Prop :=
  ∃ white, (∀ c ∈ white, Text.isWhite c = true) ∧ t ++ white ++ ['>'] <:+: s

/-- The text holds a start of the element. -/
abbrev HoldsStart (name : List Char) : List Char → Prop :=
  HoldsTag ('<' :: name)

/-- The text holds an end of the element. -/
abbrev HoldsEnd (name : List Char) : List Char → Prop :=
  HoldsTag ('<' :: '/' :: name)

theorem HoldsTag.mono (h : HoldsTag t a) (hab : a <:+: b) : HoldsTag t b := by
  obtain ⟨white, hwhite, htag⟩ := h
  exact ⟨white, hwhite, htag.trans hab⟩

theorem not_holdsTag_of_free (h : Free t s) : ¬ HoldsTag t s := by
  rintro ⟨white, -, htag⟩
  apply h
  refine List.IsInfix.trans ?_ htag
  rw [List.append_assoc]
  exact (List.prefix_append _ _).isInfix

theorem not_mem_tag {c : Char} (ht : c ∉ t) (hc : Text.isWhite c = false) (hend : c ≠ '>')
    (h : ∀ c ∈ white, Text.isWhite c = true) : c ∉ t ++ white ++ ['>'] := by
  have hwhite : c ∉ white := by
    intro hmem
    rw [h c hmem] at hc
    cases hc
  simp [ht, hwhite, hend]

theorem HoldsTag.of_append_cons {c : Char} (ht : c ∉ t) (hc : Text.isWhite c = false)
    (hend : c ≠ '>') (h : HoldsTag t (a ++ c :: b)) : HoldsTag t a ∨ HoldsTag t b := by
  obtain ⟨white, hwhite, htag⟩ := h
  rcases infix_of_infix_append_cons (not_mem_tag ht hc hend hwhite) htag with htag | htag
  · exact Or.inl ⟨white, hwhite, htag⟩
  · exact Or.inr ⟨white, hwhite, htag⟩

theorem holdsTag_iff : HoldsTag t s ↔ ((tag t).find? s).isSome := by
  constructor
  · rintro ⟨white, hwhite, front, rest, rfl⟩
    rw [List.append_assoc]
    exact isSome_find?_append (by rw [tag_append hwhite]; rfl) front
  · intro h
    obtain ⟨⟨front, found, rest⟩, hfound⟩ := Option.isSome_iff_exists.1 h
    obtain ⟨place, rfl, hplace⟩ := find?_sound hfound
    obtain ⟨white, hwhite, rfl⟩ := tag_sound hplace
    exact ⟨white, hwhite, front, rest, List.append_assoc _ _ _⟩

instance (t s : List Char) : Decidable (HoldsTag t s) :=
  decidable_of_iff _ holdsTag_iff.symm

theorem tag_eq_none (hu : '<' ∉ u) (h : ¬ HoldsTag ('<' :: u) a) (hne : a ≠ [])
    (hs : ∀ c ∈ s.head?, c = '<') : tag ('<' :: u) (a ++ s) = none := by
  rw [Option.eq_none_iff_forall_ne_some]
  rintro ⟨found, rest⟩ hfound
  obtain ⟨white, hwhite, hplace⟩ := tag_sound hfound
  have hbracket : '<' ∉ u ++ white ++ ['>'] := not_mem_tag hu (by decide) (by decide) hwhite
  have hstart : '<' :: (u ++ white ++ ['>']) <+: a := by
    refine prefix_of_prefix_append hne ?_ ⟨rest, hplace.symm⟩
    intro c hc
    rw [hs c hc]
    exact hbracket
  exact h ⟨white, hwhite, hstart.isInfix⟩

theorem find?_closeTag (hname : '<' ∉ name) {content : List Char} (h : ¬ HoldsEnd name content)
    (hwhite : ∀ c ∈ white, Text.isWhite c = true) (rest : List Char) :
    (closeTag name).find? (content ++ (closed name white ++ rest)) =
      some (content, (), rest) := by
  have hnone : ∀ x y, content = x ++ y → y ≠ [] →
      closeTag name (y ++ (closed name white ++ rest)) = none := by
    intro x y heq hne
    refine tag_eq_none (by simpa using hname) ?_ hne (by simp [closed])
    intro hend
    exact h (hend.mono ⟨x, [], by simp [heq]⟩)
  rw [find?_append_of_none hnone, find?_of_recognised (closeTag_closed hwhite rest)]
  simp

theorem enclosed_eq {opening closing : Mark Unit} {content rest : List Char}
    (hopening : opening s = some ((), b))
    (hclosing : closing.find? b = some (content, (), rest)) :
    enclosed opening closing s = some (content, rest) := by
  rw [enclosed, hopening, Option.bind_some]
  dsimp only
  rw [hclosing, Option.map_some]

theorem enclosed_sound {opening closing : Mark Unit} {content rest : List Char}
    (h : enclosed opening closing s = some (content, rest)) :
    ∃ b, opening s = some ((), b) ∧ closing.find? b = some (content, (), rest) := by
  obtain ⟨⟨_, b⟩, hopening, hclosing⟩ := Option.bind_eq_some_iff.1 h
  obtain ⟨⟨_, _, _⟩, hclosing, heq⟩ := Option.map_eq_some_iff.1 hclosing
  cases heq
  exact ⟨b, hopening, hclosing⟩

theorem not_holdsTag_of_find? {front rest : List Char} {found : Unit} (ht : t ≠ [])
    (h : (tag t).find? s = some (front, found, rest)) : ¬ HoldsTag t front := by
  rintro ⟨white, hwhite, before, behind, rfl⟩
  obtain ⟨place, rfl, -⟩ := find?_sound h
  rw [List.append_assoc, List.append_assoc] at h
  have hfirst := find?_first h (tag_append hwhite (behind ++ place))
  have hlength := List.length_pos_iff.2 ht
  simp only [List.length_append] at hfirst
  omega

theorem prefix_of_noEnd (hname : '<' ∉ name) {content white' rest : List Char}
    (h : ¬ HoldsEnd name content) (hwhite : ∀ c ∈ white, Text.isWhite c = true)
    (hwhite' : ∀ c ∈ white', Text.isWhite c = true)
    (heq : content ++ (closed name white ++ rest) = a ++ (closed name white' ++ b)) :
    content <+: a := by
  have hfound := find?_closeTag hname h hwhite rest
  have hcontent : content <+: a ++ (closed name white' ++ b) := ⟨_, heq⟩
  rw [heq] at hfound
  have hfirst := find?_first hfound (closeTag_closed hwhite' b)
  exact List.prefix_of_prefix_length_le hcontent (List.prefix_append a _) hfirst

def elementText (name white content white' : List Char) : List Char :=
  opened name white ++ content ++ closed name white'

variable {content white' : List Char}

theorem element_of_noEnd (hname : '<' ∉ name) (hopen : ∀ c ∈ white, Text.isWhite c = true)
    (hclose : ∀ c ∈ white', Text.isWhite c = true) (hcontent : ¬ HoldsEnd name content)
    (rest : List Char) :
    element name (elementText name white content white' ++ rest) = some (content, rest) := by
  rw [elementText, List.append_assoc, List.append_assoc]
  exact enclosed_eq (openTag_opened hopen _) (find?_closeTag hname hcontent hclose rest)

theorem element_sound {rest : List Char} (h : element name s = some (content, rest)) :
    ∃ white white', (∀ c ∈ white, Text.isWhite c = true) ∧ (∀ c ∈ white', Text.isWhite c = true) ∧
      s = elementText name white content white' ++ rest ∧ ¬ HoldsEnd name content := by
  obtain ⟨b, hopening, hclosing⟩ := enclosed_sound h
  have hnone := not_holdsTag_of_find? (List.cons_ne_nil _ _) hclosing
  obtain ⟨place, rfl, hplace⟩ := find?_sound hclosing
  obtain ⟨white, hwhite, rfl⟩ := tag_sound hopening
  obtain ⟨white', hwhite', rfl⟩ := tag_sound hplace
  refine ⟨white, white', hwhite, hwhite', ?_, hnone⟩
  simp only [elementText, opened, closed, List.append_assoc]

theorem find?_element (hname : '<' ∉ name) (hfront : ¬ HoldsStart name a)
    (hopen : ∀ c ∈ white, Text.isWhite c = true) (hclose : ∀ c ∈ white', Text.isWhite c = true)
    (hcontent : ¬ HoldsEnd name content) (rest : List Char) :
    (element name).find? (a ++ (elementText name white content white' ++ rest)) =
      some (a, content, rest) := by
  have hnone : ∀ x y, a = x ++ y → y ≠ [] →
      element name (y ++ (elementText name white content white' ++ rest)) = none := by
    intro x y heq hne
    have hopening : openTag name (y ++ (elementText name white content white' ++ rest)) = none := by
      refine tag_eq_none hname ?_ hne (by simp [elementText, opened])
      intro hstart
      exact hfront (hstart.mono ⟨x, [], by simp [heq]⟩)
    rw [element, enclosed, hopening, Option.bind_none]
  rw [find?_append_of_none hnone,
    find?_of_recognised (element_of_noEnd hname hopen hclose hcontent rest)]
  simp

theorem emptyTag_opened (h : ∀ c ∈ white, Text.isWhite c = true) (rest : List Char) :
    emptyTag name (opened name white ++ rest) = none := by
  have hsplit : opened name white ++ rest = ('<' :: name) ++ (white ++ '>' :: rest) := by
    simp [opened]
  have htrim : trimStart (white ++ '>' :: rest) = '>' :: rest := by
    rw [trimStart, List.dropWhile_append_of_pos h]
    rfl
  rw [emptyTag, followedBy, hsplit, text_append, Option.bind_some]
  show tagEnd true (white ++ '>' :: rest) = none
  rw [tagEnd, htrim]
  rfl

theorem value_of_noEnd (hopen : ∀ c ∈ white, Text.isWhite c = true)
    (hclose : ∀ c ∈ white', Text.isWhite c = true) (hcontent : ¬ HoldsEnd "value".toList content)
    (rest : List Char) :
    value (elementText "value".toList white content white' ++ rest) =
      some (some content, rest) := by
  have helement := element_of_noEnd (by decide) hopen hclose hcontent rest
  unfold value
  rw [helement, elementText, List.append_assoc, List.append_assoc, emptyTag_opened hopen]
  rfl

def propertyText (attributes content white : List Char) : List Char :=
  '<' :: "property".toList ++ attributes ++ '>' :: content ++ closed "property".toList white

/-- The attributes of a property element: nothing that goes on with the name or ends the tag. -/
structure IsAttributes (attributes : List Char) : Prop where
  endsName : endsWord (attributes ++ ['>']) = true
  noEnd : '>' ∉ attributes

theorem IsAttributes.nil : IsAttributes [] :=
  ⟨rfl, List.not_mem_nil⟩

theorem property_of_noEnd {attributes : List Char} (hattributes : IsAttributes attributes)
    (hclose : ∀ c ∈ white, Text.isWhite c = true)
    (hcontent : ¬ HoldsEnd "property".toList content) (rest : List Char) :
    property (propertyText attributes content white ++ rest) = some (content, rest) := by
  have hends (more : List Char) : endsWord (attributes ++ '>' :: more) = true := by
    have h := hattributes.endsName
    cases attributes with
    | nil => exact h
    | cons c attributes => exact h
  have hskip (more : List Char) :
      (attributes ++ '>' :: more).dropWhile (· != '>') = '>' :: more := by
    have hne : ∀ c ∈ attributes, (c != '>') = true := fun c hc => by
      simpa using fun heq : c = '>' => hattributes.noEnd (heq ▸ hc)
    rw [List.dropWhile_append_of_pos hne]
    rfl
  have hsplit : propertyText attributes content white ++ rest = ('<' :: "property".toList) ++
      (attributes ++ '>' :: (content ++ (closed "property".toList white ++ rest))) := by
    simp [propertyText]
  refine enclosed_eq (b := content ++ (closed "property".toList white ++ rest)) ?_
    (find?_closeTag (by decide) hcontent hclose rest)
  rw [hsplit, openTagWithAttributes, after?_append, Option.bind_some, if_pos (hends _), hskip]
  exact text_append ['>'] _

end Mark

theorem withoutComments_of_free (h : Free ('<' :: "!--".toList) s) : withoutComments s = s := by
  have hnone := Mark.find?_eq_none Mark.comment_startsWith h
  rw [withoutComments]
  split
  · rfl
  · rename_i hsome
    rw [hnone] at hsome
    exact absurd hsome (by simp)

theorem propertyBodies_of_free (h : Free ('<' :: "property".toList) s) : propertyBodies s = [] := by
  have hnone := Mark.find?_eq_none Mark.property_startsWith h
  rw [propertyBodies]
  split
  · rfl
  · rename_i hsome
    rw [hnone] at hsome
    exact absurd hsome (by simp)

theorem propertyBodies_of_noEnd {gap attributes content white : List Char}
    (hgap : Free ('<' :: "property".toList) gap) (hattributes : Mark.IsAttributes attributes)
    (hclose : ∀ c ∈ white, Text.isWhite c = true)
    (hcontent : ¬ Mark.HoldsEnd "property".toList content) (rest : List Char) :
    propertyBodies (gap ++ (Mark.propertyText attributes content white ++ rest)) =
      content :: propertyBodies rest := by
  have hfound := Mark.find?_append Mark.property_startsWith (by decide) hgap
    (Mark.property_of_noEnd hattributes hclose hcontent rest)
  rw [propertyBodies]
  split
  · rename_i hnone
    rw [hfound] at hnone
    exact absurd hnone (by simp)
  · rename_i hsome
    rw [hfound] at hsome
    cases hsome
    rfl

theorem propertyBodies_append {gap attributes content white : List Char}
    (hgap : Free ('<' :: "property".toList) gap) (hattributes : Mark.IsAttributes attributes)
    (hclose : ∀ c ∈ white, Text.isWhite c = true)
    (hcontent : Free ('<' :: '/' :: "property".toList) content) (rest : List Char) :
    propertyBodies (gap ++ (Mark.propertyText attributes content white ++ rest)) =
      content :: propertyBodies rest :=
  propertyBodies_of_noEnd hgap hattributes hclose (Mark.not_holdsTag_of_free hcontent) rest

theorem hasRoot_append (front rest : List Char) :
    hasRoot (front ++ ("<configuration".toList ++ rest)) = true :=
  Mark.isSome_find?_append (by rw [Mark.text_append]; rfl) front

end ActionLauncher.SiteXml
