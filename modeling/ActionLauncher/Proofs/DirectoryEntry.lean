import ActionLauncher.Path

namespace ActionLauncher

namespace Text.Chars

theorem splitAll_append (sep : Char) (before after : List Char) :
    splitAll sep (before ++ sep :: after) = splitAll sep before ++ splitAll sep after := by
  induction before with
  | nil => simp [splitAll]
  | cons c rest ih =>
      rw [List.cons_append, splitAll, splitAll, ih]
      by_cases hc : c = sep
      · simp [hc]
      · rw [if_neg hc, if_neg hc]
        cases hpieces : splitAll sep rest with
        | nil => exact absurd hpieces (splitAll_ne_nil sep rest)
        | cons piece pieces => rfl

theorem splitAll_of_not_mem {sep : Char} {s : List Char} (h : sep ∉ s) :
    splitAll sep s = [s] := by
  induction s with
  | nil => rfl
  | cons c rest ih =>
      rw [List.mem_cons, not_or] at h
      rw [splitAll, if_neg (Ne.symm h.1), ih h.2]

end Text.Chars

namespace Path

/-- A text that an entry of a directory can have as its name. -/
structure IsName (name : String) : Prop where
  ne_empty : name ≠ ""
  ne_here : name ≠ "."
  ne_up : name ≠ ".."
  no_slash : '/' ∉ name.toList

/-- The segments that lead to an entry of the directory, without the name of the entry. -/
def entryFront (dir : Path) : List String :=
  if dir.isEmpty then []
  else if dir.text.toList.getLast? = some '/' then dir.segments.dropLast
  else dir.segments

theorem spelling_cases (dir : Path) :
    dir.text = "" ∨
      (∃ front, dir.text.toList = front ++ ['/']) ∨
        (dir.text ≠ "" ∧ dir.text.toList.getLast? ≠ some '/') := by
  by_cases hempty : dir.text = ""
  · exact .inl hempty
  · by_cases hslash : dir.text.toList.getLast? = some '/'
    · exact .inr (.inl (List.getLast?_eq_some_iff.mp hslash))
    · exact .inr (.inr ⟨hempty, hslash⟩)

theorem segments_ne_nil (path : Path) : path.segments ≠ [] := by
  rw [segments, Text.splitAll]
  simp [Text.Chars.splitAll_ne_nil]

theorem segments_of_slash {dir : Path} {front : List Char}
    (h : dir.text.toList = front ++ ['/']) :
    dir.segments = (Text.Chars.splitAll '/' front).map String.ofList ++ [""] := by
  rw [segments, Text.splitAll, h, Text.Chars.splitAll_append, List.map_append]
  rfl

theorem entryFront_of_slash {dir : Path} {front : List Char}
    (h : dir.text.toList = front ++ ['/']) :
    dir.entryFront = (Text.Chars.splitAll '/' front).map String.ofList := by
  have hnonempty : dir.isEmpty = false := by
    rw [isEmpty, String.isEmpty_eq_false_iff]
    rintro hempty
    simp [hempty] at h
  rw [entryFront, hnonempty, h, List.getLast?_concat, segments_of_slash h]
  simp

theorem entryFront_of_noSlash {dir : Path} (hempty : dir.text ≠ "")
    (hslash : dir.text.toList.getLast? ≠ some '/') : dir.entryFront = dir.segments := by
  have hnonempty : dir.isEmpty = false := by
    rw [isEmpty, String.isEmpty_eq_false_iff]
    exact hempty
  rw [entryFront, hnonempty, if_neg hslash]
  rfl

theorem exists_segments {dir : Path} (h : dir.text ≠ "") :
    ∃ first rest, dir.entryFront = first :: rest ∧
      (dir.segments = first :: rest ∨ dir.segments = first :: (rest ++ [""])) := by
  rcases dir.spelling_cases with hempty | ⟨front, hslash⟩ | ⟨hempty, hslash⟩
  · exact absurd hempty h
  · cases hpieces : (Text.Chars.splitAll '/' front).map String.ofList with
    | nil => simp [Text.Chars.splitAll_ne_nil] at hpieces
    | cons first rest =>
        refine ⟨first, rest, (entryFront_of_slash hslash).trans hpieces, .inr ?_⟩
        rw [segments_of_slash hslash, hpieces]
        rfl
  · cases hsegments : dir.segments with
    | nil => exact absurd hsegments dir.segments_ne_nil
    | cons first rest =>
        exact ⟨first, rest, (entryFront_of_noSlash hempty hslash).trans hsegments, .inl rfl⟩

section Join

variable {entry : Path} (hentry : entry.isAbsolute = false)

include hentry

theorem join_of_isEmpty {dir : Path} (h : dir.text = "") : dir.join entry = entry := by
  rw [join, hentry]
  simp [isEmpty, h]

theorem join_of_slash {dir : Path} {front : List Char} (h : dir.text.toList = front ++ ['/']) :
    (dir.join entry).text.toList = front ++ '/' :: entry.text.toList := by
  rw [join, hentry]
  simp [h]

theorem join_of_noSlash {dir : Path} (hempty : dir.text ≠ "")
    (hslash : dir.text.toList.getLast? ≠ some '/') :
    (dir.join entry).text.toList = dir.text.toList ++ '/' :: entry.text.toList := by
  rw [join, hentry]
  simp [hslash, isEmpty, hempty]

theorem segments_join (dir : Path) :
    (dir.join entry).segments = dir.entryFront ++ entry.segments := by
  rcases dir.spelling_cases with hempty | ⟨front, hslash⟩ | ⟨hempty, hslash⟩
  · rw [join_of_isEmpty hentry hempty, entryFront, isEmpty, hempty]
    rfl
  · rw [entryFront_of_slash hslash, segments, Text.splitAll, join_of_slash hentry hslash,
      Text.Chars.splitAll_append, List.map_append]
    rfl
  · rw [entryFront_of_noSlash hempty hslash, segments, segments, Text.splitAll, Text.splitAll,
      join_of_noSlash hentry hempty hslash, Text.Chars.splitAll_append, List.map_append]
    rfl

theorem isAbsolute_join (dir : Path) : (dir.join entry).isAbsolute = dir.isAbsolute := by
  rcases dir.spelling_cases with hempty | ⟨front, hslash⟩ | ⟨hempty, hslash⟩
  · rw [join_of_isEmpty hentry hempty, hentry, isAbsolute, hempty]
    rfl
  · rw [isAbsolute, isAbsolute, join_of_slash hentry hslash, hslash]
    cases front <;> rfl
  · rw [isAbsolute, isAbsolute, join_of_noSlash hentry hempty hslash]
    cases hchars : dir.text.toList with
    | nil => exact absurd (String.toList_eq_nil_iff.mp hchars) hempty
    | cons c rest => rfl

end Join

section Name

variable {name : String} (hname : IsName name)

include hname

theorem IsName.isAbsolute : Path.isAbsolute ⟨name⟩ = false := by
  rw [Path.isAbsolute, beq_eq_false_iff_ne]
  intro hhead
  exact hname.no_slash (List.mem_of_mem_head? hhead)

theorem IsName.segments : Path.segments ⟨name⟩ = [name] := by
  rw [Path.segments, Text.splitAll, Text.Chars.splitAll_of_not_mem hname.no_slash]
  simp

theorem IsName.innerComponent? : innerComponent? name = some (.name name) := by
  simp [Path.innerComponent?, hname.ne_empty, hname.ne_here, hname.ne_up]

theorem components_join (dir : Path) :
    (dir.join ⟨name⟩).components = dir.components ++ [.name name] := by
  rw [components, isAbsolute_join hname.isAbsolute, segments_join hname.isAbsolute, hname.segments]
  by_cases hempty : dir.text = ""
  · have hdir : dir = ⟨""⟩ := by
      cases dir
      exact congrArg Path.mk hempty
    subst hdir
    rw [show components ⟨""⟩ = [] by decide, show entryFront ⟨""⟩ = [] by decide]
    simp [isAbsolute, leadingComponent?, hname.ne_here, hname.innerComponent?]
  · obtain ⟨first, rest, hfront, hsegments⟩ := exists_segments hempty
    rw [components, hfront]
    rcases hsegments with hsegments | hsegments
    · simp [hsegments, hname.innerComponent?]
    · have hnone : innerComponent? "" = none := rfl
      simp [hsegments, hname.innerComponent?, hnone]

theorem parent?_join (dir : Path) : (dir.join ⟨name⟩).parent? = some dir.components := by
  rw [parent?, components_join hname, List.getLast?_concat, List.dropLast_concat]

theorem fileName?_join (dir : Path) : (dir.join ⟨name⟩).fileName? = some name := by
  rw [fileName?, components_join hname, List.getLast?_concat]

end Name

end Path

end ActionLauncher
