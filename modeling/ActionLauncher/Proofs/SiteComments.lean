import ActionLauncher.Proofs.SiteMarks
import ActionLauncher.Resource

namespace ActionLauncher.SiteXml

open Text.Chars

variable {a b s : List Char}

theorem withoutComments_of_found {front comment rest : List Char}
    (h : Mark.comment.find? s = some (front, comment, rest)) :
    withoutComments s = front ++ withoutComments rest := by
  rw [withoutComments]
  split
  · rename_i hnone
    rw [h] at hnone
    cases hnone
  · rename_i hfound
    rw [h] at hfound
    cases hfound
    rfl

/-- No end of a comment starts in it and ends in the mark behind it. -/
theorem no_early_terminator {c : Char} {comment : List Char}
    (h : Free "-->".toList (c :: comment)) (rest : List Char) :
    ¬ "-->".toList <+: c :: comment ++ ("-->".toList ++ rest) := by
  intro hstart
  match comment with
  | [] => simp at hstart
  | [d] => simp at hstart
  | d :: e :: more =>
      apply h
      simp only [List.cons_append, String.reduceToList, List.cons_prefix_cons] at hstart
      obtain ⟨rfl, rfl, rfl, -⟩ := hstart
      exact (List.prefix_append _ more).isInfix

theorem find?_terminator {comment : List Char} (h : Free "-->".toList comment)
    (rest : List Char) :
    (Mark.text "-->".toList).find? (comment ++ ("-->".toList ++ rest)) =
      some (comment, (), rest) := by
  induction comment with
  | nil => exact Mark.find?_of_recognised (Mark.text_append _ rest)
  | cons c comment ih =>
      have hfurther : Free "-->".toList comment := by
        intro hoccurs
        exact h (hoccurs.trans (List.suffix_cons c comment).isInfix)
      have hnone := (Mark.text_startsWith _).eq_none (no_early_terminator h rest)
      rw [List.cons_append] at hnone
      rw [List.cons_append, Mark.find?, hnone, ih hfurther, Option.map_some]

theorem comment_append {comment : List Char} (h : Free "-->".toList comment)
    (rest : List Char) :
    Mark.comment ("<!--".toList ++ (comment ++ ("-->".toList ++ rest))) = some (comment, rest) := by
  have hfound := find?_terminator h rest
  rw [Mark.comment, Mark.enclosed, Mark.text_append, Option.bind_some]
  dsimp only
  rw [hfound, Option.map_some]

def HoldsComment (s : List Char) : Prop :=
  ∃ comment, "<!--".toList ++ (comment ++ "-->".toList) <:+: s

theorem comment_isSome (comment rest : List Char) :
    (Mark.comment ("<!--".toList ++ (comment ++ ("-->".toList ++ rest)))).isSome := by
  have hterminator : ((Mark.text "-->".toList).find? (comment ++ ("-->".toList ++ rest))).isSome :=
    Mark.isSome_find?_append (by rw [Mark.text_append]; rfl) comment
  obtain ⟨found, hfound⟩ := Option.isSome_iff_exists.1 hterminator
  rw [Mark.comment, Mark.enclosed, Mark.text_append, Option.bind_some]
  dsimp only
  rw [hfound]
  rfl

theorem find?_comment_sound {front comment rest : List Char}
    (h : Mark.comment.find? s = some (front, comment, rest)) :
    s = front ++ ("<!--".toList ++ (comment ++ ("-->".toList ++ rest))) ∧
      Free "<!--".toList front ∧ Free "-->".toList comment := by
  obtain ⟨place, rfl, hplace⟩ := Mark.find?_sound h
  obtain ⟨opened, hopened, hclosed⟩ := Mark.enclosed_sound hplace
  have hcomment := Mark.free_of_find?_text (by decide) hclosed
  obtain ⟨place, rfl, hterminator⟩ := Mark.find?_sound hclosed
  obtain rfl := Mark.text_sound hterminator
  obtain rfl := Mark.text_sound hopened
  refine ⟨rfl, ?_, hcomment⟩
  -- A comment that starts further on in front would be whole too, and found before this one.
  rintro ⟨before, behind, rfl⟩
  have hsome := comment_isSome (behind ++ ("<!--".toList ++ comment)) rest
  obtain ⟨⟨_, _⟩, hearlier⟩ := Option.isSome_iff_exists.1 hsome
  simp only [List.append_assoc] at h hearlier
  have hfirst := Mark.find?_first h hearlier
  simp only [List.length_append, String.reduceToList, List.length_cons] at hfirst
  omega

theorem holdsComment_iff : HoldsComment s ↔ (Mark.comment.find? s).isSome := by
  constructor
  · rintro ⟨comment, front, rest, rfl⟩
    simp only [List.append_assoc]
    exact Mark.isSome_find?_append (comment_isSome comment rest) front
  · intro h
    obtain ⟨⟨front, comment, rest⟩, hfound⟩ := Option.isSome_iff_exists.1 h
    obtain ⟨rfl, -, -⟩ := find?_comment_sound hfound
    exact ⟨comment, front, rest, by simp only [List.append_assoc]⟩

instance (s : List Char) : Decidable (HoldsComment s) :=
  decidable_of_iff _ holdsComment_iff.symm

theorem withoutComments_of_not (h : ¬ HoldsComment s) : withoutComments s = s := by
  have hnone : Mark.comment.find? s = none := by
    rwa [holdsComment_iff, Option.not_isSome_iff_eq_none] at h
  rw [withoutComments]
  split
  · rfl
  · rename_i hsome
    rw [hnone] at hsome
    cases hsome

theorem withoutComments_sublist (s : List Char) : (withoutComments s).Sublist s := by
  induction s using withoutComments.induct with
  | case1 s hnone =>
      have hno : ¬ HoldsComment s := by
        rw [holdsComment_iff, hnone]
        decide
      simp only [withoutComments_of_not hno, List.Sublist.refl]
  | case2 s front comment rest hfound _ ih =>
      obtain ⟨rfl, -, -⟩ := find?_comment_sound hfound
      rw [withoutComments_of_found hfound]
      refine List.Sublist.append_left (ih.trans ?_) front
      exact ((List.sublist_append_right _ _).trans (List.sublist_append_right _ _)).trans
        (List.sublist_append_right _ _)

theorem withoutComments_eq_self_iff : withoutComments s = s ↔ ¬ HoldsComment s := by
  constructor
  · intro heq hholds
    obtain ⟨⟨front, comment, rest⟩, hfound⟩ :=
      Option.isSome_iff_exists.1 (holdsComment_iff.1 hholds)
    rw [withoutComments_of_found hfound] at heq
    obtain ⟨hsplit, -, -⟩ := find?_comment_sound hfound
    have hrest := (withoutComments_sublist rest).length_le
    have hlength := congrArg List.length (heq.trans hsplit)
    simp only [List.length_append, String.reduceToList, List.length_cons] at hlength
    omega
  · exact withoutComments_of_not

theorem not_holdsComment_append_cons {c : Char} (hc : c ∉ "-->".toList) (ha : ¬ HoldsComment a)
    (hb : Free "-->".toList b) : ¬ HoldsComment (a ++ c :: b) := by
  rintro ⟨comment, front, rest, heq⟩
  have hsplit : (front ++ ("<!--".toList ++ comment)) ++ ("-->".toList ++ rest) = a ++ c :: b := by
    rw [← heq]
    simp only [List.append_assoc]
  rcases occurrence_append_cons hc hsplit with ⟨more, rfl⟩ | ⟨more, rfl⟩
  · exact ha ⟨comment, front, more, by simp only [List.append_assoc]⟩
  · exact hb ⟨more, rest, List.append_assoc _ _ _⟩

theorem withoutComments_cons {c : Char} (h : ¬ "<!--".toList <+: c :: s) :
    withoutComments (c :: s) = c :: withoutComments s := by
  have hnone := Mark.comment_startsWith.eq_none h
  cases hrest : Mark.comment.find? s with
  | none =>
      have hfind : Mark.comment.find? (c :: s) = none := by
        rw [Mark.find?, hnone, hrest, Option.map_none]
      rw [withoutComments_of_not, withoutComments_of_not]
      · rw [holdsComment_iff, hrest]
        decide
      · rw [holdsComment_iff, hfind]
        decide
  | some found =>
      obtain ⟨front, comment, rest⟩ := found
      have hfind : Mark.comment.find? (c :: s) = some (c :: front, comment, rest) := by
        rw [Mark.find?, hnone, hrest, Option.map_some]
      rw [withoutComments_of_found hfind, withoutComments_of_found hrest, List.cons_append]

theorem withoutComments_append_of_free (ha : Free "<!--".toList a)
    (hs : ∀ c ∈ s.head?, c ∉ "!--".toList) :
    withoutComments (a ++ s) = a ++ withoutComments s := by
  induction a with
  | nil => rfl
  | cons c a ih =>
      have hrest : Free "<!--".toList a := by
        intro hoccurs
        exact ha (hoccurs.trans (List.suffix_cons c a).isInfix)
      rw [List.cons_append, withoutComments_cons, ih hrest, List.cons_append]
      intro hstart
      exact ha (prefix_of_prefix_append (List.cons_ne_nil c a) hs hstart).isInfix

/-- Whole comments are taken out of a text whatever follows it, so what matters is only how the
text behind the last of them goes on. -/
theorem withoutComments_append (h : ∀ rest, rest <:+ withoutComments a → ¬ HoldsComment rest →
      withoutComments (rest ++ s) = rest ++ withoutComments s) :
    withoutComments (a ++ s) = withoutComments a ++ withoutComments s := by
  induction a using withoutComments.induct with
  | case1 a hnone =>
      have hno : ¬ HoldsComment a := by
        rw [holdsComment_iff, hnone]
        decide
      rw [withoutComments_of_not hno] at *
      exact h a List.suffix_rfl hno
  | case2 a front comment rest hfound _ ih =>
      obtain ⟨rfl, hfront, hcomment⟩ := find?_comment_sound hfound
      rw [withoutComments_of_found hfound] at *
      have hmore := Mark.find?_append Mark.comment_startsWith (by decide) hfront
        (comment_append hcomment (rest ++ s))
      simp only [List.append_assoc]
      rw [withoutComments_of_found hmore, ih]
      intro last hlast hno
      exact h last (hlast.trans (List.suffix_append front _)) hno

/-- A text with comments at its cuts: the first piece, then each comment with the piece behind. -/
def commented (first : List Char) (cuts : List (List Char × List Char)) : List Char :=
  first ++ cuts.flatMap fun cut => "<!--".toList ++ (cut.1 ++ ("-->".toList ++ cut.2))

theorem withoutComments_commented {first : List Char} {cuts : List (List Char × List Char)}
    (hfree : Free "<!--".toList (first ++ cuts.flatMap Prod.snd))
    (hcomments : ∀ cut ∈ cuts, Free "-->".toList cut.1) :
    withoutComments (commented first cuts) = first ++ cuts.flatMap Prod.snd := by
  induction cuts generalizing first with
  | nil =>
      rw [commented, List.flatMap_nil, List.flatMap_nil, List.append_nil] at *
      exact withoutComments_of_free hfree
  | cons cut cuts ih =>
      obtain ⟨comment, piece⟩ := cut
      rw [List.forall_mem_cons] at hcomments
      rw [List.flatMap_cons] at hfree
      -- The first comment is found where it was put, since no mark of one starts before it.
      have hfirst : Free "<!--".toList first := by
        intro hoccurs
        exact hfree (hoccurs.trans (List.prefix_append _ _).isInfix)
      have hpieces : Free "<!--".toList (piece ++ cuts.flatMap Prod.snd) := by
        intro hoccurs
        exact hfree (hoccurs.trans (List.suffix_append _ _).isInfix)
      have hsplit : commented first ((comment, piece) :: cuts) =
          first ++ ("<!--".toList ++ (comment ++ ("-->".toList ++ commented piece cuts))) := by
        simp only [commented, List.flatMap_cons, List.append_assoc]
      have hfound := Mark.find?_append Mark.comment_startsWith (by decide) hfirst
        (comment_append hcomments.1 (commented piece cuts))
      rw [hsplit, withoutComments_of_found hfound, ih hpieces hcomments.2, List.flatMap_cons]

/-- Comments count for nothing: a document that was cut anywhere, with a comment put in at every
cut, is read as it was, with the same entries in the same order or the same fault. -/
theorem ofText_commented {document first : List Char} {cuts : List (List Char × List Char)}
    (hcut : first ++ cuts.flatMap Prod.snd = document) (hfree : Free "<!--".toList document)
    (hcomments : ∀ cut ∈ cuts, Free "-->".toList cut.1) :
    withoutComments (commented first cuts) = document ∧
      Resource.ofText (String.ofList (commented first cuts)) =
        Resource.ofText (String.ofList document) := by
  subst hcut
  have hremoved := withoutComments_commented hfree hcomments
  refine ⟨hremoved, ?_⟩
  rw [Resource.ofText, Resource.ofText, read, read, String.toList_ofList, String.toList_ofList,
    readChars, readChars, hremoved, withoutComments_of_free hfree]

/-- Comments in a tag, in a name and at the end of another comment's dashes, one of them with
markup of its own. -/
def insideTags : List (List Char × List Char) :=
  [("<property><name>x</name>--".toList, "erty><name>k".toList),
    ("->".toList, "</name><val".toList),
    ("-".toList, "ue>v</value></property></configuration>".toList)]

theorem ofText_commented_insideTags :
    let document :=
      "<configuration><property><name>k</name><value>v</value></property></configuration>"
    "<configuration><prop".toList ++ insideTags.flatMap Prod.snd = document.toList ∧
      Free "<!--".toList document.toList ∧ (∀ cut ∈ insideTags, Free "-->".toList cut.1) ∧
      (Resource.ofText (String.ofList
        (commented "<configuration><prop".toList insideTags))).toOption =
          some (.ofList [("k", "v")]) := by
  intro document
  have hcut : "<configuration><prop".toList ++ insideTags.flatMap Prod.snd = document.toList := by
    decide +kernel
  have hfree : Free "<!--".toList document.toList := by
    decide +kernel
  have hcomments : ∀ cut ∈ insideTags, Free "-->".toList cut.1 := by
    decide +kernel
  obtain ⟨-, hread⟩ := ofText_commented hcut hfree hcomments
  have hplain : (Resource.ofText (String.ofList document.toList)).toOption =
      some (.ofList [("k", "v")]) := by
    decide +kernel
  exact ⟨hcut, hfree, hcomments, (congrArg Except.toOption hread).trans hplain⟩

end ActionLauncher.SiteXml
