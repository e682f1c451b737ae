namespace ActionLauncher.Text

namespace Chars

/-- The pieces between the separators; one more than there are separators. -/
def splitAll (sep : Char) : List Char → List (List Char)
  | [] => [[]]
  | c :: rest =>
      if c = sep then [] :: splitAll sep rest
      else match splitAll sep rest with
        | [] => [[c]]
        | piece :: pieces => (c :: piece) :: pieces

theorem splitAll_ne_nil (sep : Char) (s : List Char) : splitAll sep s ≠ [] := by
  cases s with
  | nil => simp [splitAll]
  | cons c rest =>
      rw [splitAll]
      split
      · simp
      · split <;> simp

/-- What stands before and after the first separator. -/
def splitFirst? (sep : Char) : List Char → Option (List Char × List Char)
  | [] => none
  | c :: rest =>
      if c = sep then some ([], rest)
      else (splitFirst? sep rest).map fun (before, after) => (c :: before, after)

theorem splitFirst?_append {sep : Char} {before : List Char} (h : sep ∉ before)
    (after : List Char) : splitFirst? sep (before ++ sep :: after) = some (before, after) := by
  induction before with
  | nil => simp [splitFirst?]
  | cons c rest ih =>
      simp only [List.mem_cons, not_or] at h
      simp [splitFirst?, Ne.symm h.1, ih h.2]

/-- The lines of a text: they end at line feeds, and a carriage return before one is dropped. -/
def lines (s : List Char) : List (List Char) :=
  (splitAll '\n' s).map fun line =>
    if line.getLast? = some '\r' then line.dropLast else line

/-- The text after a given start, if it starts so. -/
def after? : (start : List Char) → List Char → Option (List Char)
  | [], s => some s
  | _ :: _, [] => none
  | a :: start, c :: rest => if a = c then after? start rest else none

theorem after?_append (start rest : List Char) : after? start (start ++ rest) = some rest := by
  induction start with
  | nil => rfl
  | cons a start ih => simp [after?, ih]

theorem eq_append_of_after? {start s rest : List Char} (h : after? start s = some rest) :
    s = start ++ rest := by
  induction start generalizing s with
  | nil => simpa [after?] using h
  | cons a start ih =>
      cases s with
      | nil => simp [after?] at h
      | cons c s =>
          simp only [after?] at h
          split at h
          · rename_i hac
            simp [hac, ih h]
          · simp at h

theorem after?_eq_none_iff {start s : List Char} : after? start s = none ↔ ¬ start <+: s := by
  constructor
  · rintro h ⟨rest, rfl⟩
    rw [after?_append] at h
    cases h
  · intro h
    refine Option.eq_none_iff_forall_ne_some.2 fun rest hrest => h ?_
    rw [eq_append_of_after? hrest]
    exact List.prefix_append _ _

end Chars

/-- What stands before and after the first separator. -/
def splitFirst? (sep : Char) (s : String) : Option (String × String) :=
  (Chars.splitFirst? sep s.toList).map fun (before, after) =>
    (String.ofList before, String.ofList after)

def splitAll (sep : Char) (s : String) : List String :=
  (Chars.splitAll sep s.toList).map String.ofList

/-- The text after a given start, if it starts so. -/
def after? (start s : String) : Option String :=
  (Chars.after? start.toList s.toList).map String.ofList

theorem after?_append (start rest : String) : after? start (start ++ rest) = some rest := by
  rw [after?, String.toList_append, Chars.after?_append, Option.map_some, String.ofList_toList]

theorem eq_append_of_after? {start s rest : String} (h : after? start s = some rest) :
    s = start ++ rest := by
  obtain ⟨chars, hchars, rfl⟩ := Option.map_eq_some_iff.1 h
  rw [← String.toList_inj, String.toList_append, String.toList_ofList,
    Chars.eq_append_of_after? hchars]

/-- The upper case of ASCII letters, every other character unchanged. -/
def asciiUpper (s : String) : String :=
  String.ofList (s.toList.map Char.toUpper)

/-- Equality that does not tell the case of ASCII letters. -/
def sameIgnoringCase (a b : String) : Bool :=
  asciiUpper a == asciiUpper b

end ActionLauncher.Text
