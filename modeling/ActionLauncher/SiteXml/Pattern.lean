import ActionLauncher.Text.Blank
import ActionLauncher.Text.Split
import ActionLauncher.Text.Word

namespace ActionLauncher.SiteXml

open Text.Chars

/-- Recognises something at the front of a text, and returns what follows it with what it says. -/
abbrev Mark (α : Type) : Type :=
  List Char → Option (α × List Char)

namespace Mark

/-- A mark that takes at least one character. -/
def Advances {α : Type} (mark : Mark α) : Prop :=
  ∀ s a rest, mark s = some (a, rest) → rest.length < s.length

/-- Finds the first place where a mark is recognised: what stands before it, what it says, and
what follows. -/
def find? {α : Type} (mark : Mark α) : List Char → Option (List Char × α × List Char)
  | [] => (mark []).map fun (a, rest) => ([], a, rest)
  | c :: s =>
      match mark (c :: s) with
      | some (a, rest) => some ([], a, rest)
      | none => (find? mark s).map fun (before, found) => (c :: before, found)

theorem length_of_find? {α : Type} {mark : Mark α} (h : mark.Advances) {s before rest : List Char}
    {a : α} (hfind : mark.find? s = some (before, a, rest)) : rest.length < s.length := by
  induction s generalizing before with
  | nil =>
      simp only [find?, Option.map_eq_some_iff] at hfind
      obtain ⟨⟨b, r⟩, hmark, heq⟩ := hfind
      simp only [Prod.mk.injEq] at heq
      obtain ⟨-, -, rfl⟩ := heq
      exact h _ _ _ hmark
  | cons c s ih =>
      rw [find?] at hfind
      split at hfind
      · rename_i b r hmark
        simp only [Option.some.injEq, Prod.mk.injEq] at hfind
        obtain ⟨-, -, rfl⟩ := hfind
        exact h _ _ _ hmark
      · obtain ⟨⟨b, found⟩, hrest, heq⟩ := Option.map_eq_some_iff.1 hfind
        simp only [Prod.mk.injEq] at heq
        obtain ⟨-, rfl⟩ := heq
        exact Nat.lt_succ_of_lt (ih hrest)

def text (t : List Char) : Mark Unit := fun s =>
  (after? t s).map fun rest => ((), rest)

/-- The end of a tag, after white space: a slash, if one is asked for, and an angle bracket. -/
def tagEnd (slash : Bool) : Mark Unit := fun s =>
  text (if slash then ['/', '>'] else ['>']) (trimStart s)

def followedBy (first second : Mark Unit) : Mark Unit := fun s =>
  (first s).bind fun (_, rest) => second rest

def openTag (name : List Char) : Mark Unit :=
  followedBy (text ('<' :: name)) (tagEnd false)

def emptyTag (name : List Char) : Mark Unit :=
  followedBy (text ('<' :: name)) (tagEnd true)

def closeTag (name : List Char) : Mark Unit :=
  followedBy (text ('<' :: '/' :: name)) (tagEnd false)

/-- A tag with the given name and whatever attributes; the name must end there. -/
def openTagWithAttributes (name : List Char) : Mark Unit := fun s =>
  (after? ('<' :: name) s).bind fun rest =>
    if endsWord rest then text ['>'] (rest.dropWhile (· != '>')) else none

/-- An opening mark and everything up to the first closing mark. -/
def enclosed (opening closing : Mark Unit) : Mark (List Char) := fun s =>
  (opening s).bind fun (_, rest) =>
    (closing.find? rest).map fun (content, _, rest) => (content, rest)

def element (name : List Char) : Mark (List Char) :=
  enclosed (openTag name) (closeTag name)

def comment : Mark (List Char) :=
  enclosed (text "<!--".toList) (text "-->".toList)

def property : Mark (List Char) :=
  enclosed (openTagWithAttributes "property".toList) (closeTag "property".toList)

/-- A value element; the empty element has no content. -/
def value : Mark (Option (List Char)) := fun s =>
  match emptyTag "value".toList s with
  | some (_, rest) => some (none, rest)
  | none => (element "value".toList s).map fun (content, rest) => (some content, rest)

theorem length_text {t s rest : List Char} {u : Unit} (h : text t s = some (u, rest)) :
    s.length = t.length + rest.length := by
  obtain ⟨r, hr, heq⟩ := Option.map_eq_some_iff.1 h
  obtain ⟨-, rfl⟩ := Prod.mk.inj heq
  rw [eq_append_of_after? hr, List.length_append]

theorem text_advances {t : List Char} (h : t ≠ []) : (text t).Advances := by
  intro s _ rest hs
  have := length_text hs
  have := List.length_pos_iff.2 h
  omega

theorem tagEnd_advances (slash : Bool) : (tagEnd slash).Advances := by
  intro s a rest hs
  have hshort := text_advances (by cases slash <;> simp) _ a _ hs
  have htrim : (trimStart s).length ≤ s.length := (List.dropWhile_sublist _).length_le
  omega

theorem followedBy_advances {first second : Mark Unit} (hfirst : first.Advances)
    (hsecond : second.Advances) : (followedBy first second).Advances := by
  intro s a rest hs
  obtain ⟨⟨u, r⟩, hr, hrest⟩ := Option.bind_eq_some_iff.1 hs
  exact Nat.lt_trans (hsecond _ _ _ hrest) (hfirst _ _ _ hr)

theorem closeTag_advances (name : List Char) : (closeTag name).Advances :=
  followedBy_advances (text_advances (by simp)) (tagEnd_advances _)

theorem openTagWithAttributes_advances (name : List Char) :
    (openTagWithAttributes name).Advances := by
  intro s a rest hs
  obtain ⟨r, hr, hrest⟩ := Option.bind_eq_some_iff.1 hs
  split at hrest
  · have hlen := length_text hrest
    have hdrop : (r.dropWhile (· != '>')).length ≤ r.length :=
      (List.dropWhile_sublist _).length_le
    rw [eq_append_of_after? hr]
    simp only [List.length_cons, List.length_append, List.length_nil] at hlen ⊢
    omega
  · simp at hrest

theorem enclosed_advances {opening closing : Mark Unit} (hopen : opening.Advances)
    (hclose : closing.Advances) : (enclosed opening closing).Advances := by
  intro s content rest hs
  obtain ⟨⟨u, r⟩, hr, hrest⟩ := Option.bind_eq_some_iff.1 hs
  obtain ⟨⟨b, v, r'⟩, hfind, heq⟩ := Option.map_eq_some_iff.1 hrest
  obtain ⟨-, rfl⟩ := Prod.mk.inj heq
  exact Nat.lt_trans (length_of_find? hclose hfind) (hopen _ _ _ hr)

theorem comment_advances : comment.Advances :=
  enclosed_advances (text_advances (by decide)) (text_advances (by decide))

theorem property_advances : property.Advances :=
  enclosed_advances (openTagWithAttributes_advances _) (closeTag_advances _)

end Mark

end ActionLauncher.SiteXml
