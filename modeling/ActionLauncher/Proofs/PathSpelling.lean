import ActionLauncher.Proofs.FileChange

namespace ActionLauncher

namespace Text.Chars

variable {sep c : Char}

theorem head?_splitAll (sep : Char) (s : List Char) :
    (splitAll sep s).head? = some (s.takeWhile (· != sep)) := by
  induction s with
  | nil => rfl
  | cons c rest ih =>
      rw [splitAll]
      by_cases hc : c = sep
      · simp [hc]
      · rw [if_neg hc]
        cases hpieces : splitAll sep rest with
        | nil => exact absurd hpieces (splitAll_ne_nil sep rest)
        | cons piece pieces =>
            rw [hpieces, List.head?_cons, Option.some.injEq] at ih
            simp [hc, ih]

theorem mem_iff_mem_splitAll (hc : c ≠ sep) {s : List Char} :
    c ∈ s ↔ ∃ piece ∈ splitAll sep s, c ∈ piece := by
  induction s with
  | nil => simp [splitAll]
  | cons a rest ih =>
      rw [List.mem_cons, ih, splitAll]
      by_cases ha : a = sep
      · have hne : c ≠ a := fun h => hc (h.trans ha)
        simp [ha, hc]
      · rw [if_neg ha]
        cases hpieces : splitAll sep rest with
        | nil => exact absurd hpieces (splitAll_ne_nil sep rest)
        | cons piece pieces => simp [or_assoc]

end Text.Chars

def Component.segment : Component → String
  | .root => ""
  | .here => "."
  | .up => ".."
  | .name text => text

namespace Path

theorem same_iff {a b : Path} : a.same b = true ↔ a.components = b.components := by
  rw [same, beq_iff_eq]

theorem sameOption_self (path : Option Path) : sameOption path path = true := by
  cases path with
  | none => rfl
  | some path => exact same_iff.2 rfl

theorem innerComponent?_eq_none_iff {segment : String} :
    innerComponent? segment = none ↔ segment = "" ∨ segment = "." := by
  unfold innerComponent?
  split
  · simp [*]
  · split <;> simp [*]

theorem segment_of_innerComponent? {segment : String} {component : Component}
    (h : innerComponent? segment = some component) :
    component.segment = segment ∧ component ≠ .root ∧ component ≠ .here := by
  unfold innerComponent? at h
  split at h
  · cases h
  · split at h
    · rename_i hup
      cases h
      exact ⟨hup.symm, by simp, by simp⟩
    · cases h
      exact ⟨rfl, by simp, by simp⟩

theorem leadingComponent?_of_ne {segment : String} (h : segment ≠ ".") :
    leadingComponent? segment = innerComponent? segment := by
  rw [leadingComponent?, if_neg h]

theorem leadingComponent?_eq_name_iff {segment text : String} :
    leadingComponent? segment = some (.name text) ↔
      segment = text ∧ text ≠ "" ∧ text ≠ "." ∧ text ≠ ".." := by
  unfold leadingComponent? innerComponent?
  split
  · rename_i hhere
    subst hhere
    simp only [Option.some.injEq, reduceCtorEq, false_iff]
    rintro ⟨rfl, -, hne, -⟩
    exact hne rfl
  · split
    · simp only [reduceCtorEq, false_iff]
      rintro ⟨rfl, hempty, hhere, -⟩
      simp_all
    · split
      · simp only [Option.some.injEq, reduceCtorEq, false_iff]
        rintro ⟨rfl, -, -, hup⟩
        exact hup ‹_›
      · simp only [Option.some.injEq, Component.name.injEq]
        constructor
        · rintro rfl
          simp_all
        · exact And.left

theorem exists_leadingComponent? {segment : String} (h : segment ≠ "") :
    ∃ component, leadingComponent? segment = some component ∧ component ≠ .root := by
  by_cases hhere : segment = "."
  · exact ⟨.here, by rw [leadingComponent?, if_pos hhere], by simp⟩
  · rw [leadingComponent?_of_ne hhere]
    cases hcomponent : innerComponent? segment with
    | none => exact absurd (innerComponent?_eq_none_iff.1 hcomponent) (by simp [h, hhere])
    | some component => exact ⟨component, rfl, (segment_of_innerComponent? hcomponent).2.1⟩

/-- The text in front of the first slash. -/
def firstSegment (path : Path) : String :=
  String.ofList (path.text.toList.takeWhile (· != '/'))

theorem segments_eq_cons (path : Path) : ∃ rest, path.segments = path.firstSegment :: rest := by
  have hhead := Text.Chars.head?_splitAll '/' path.text.toList
  rw [List.head?_eq_some_iff] at hhead
  obtain ⟨rest, hrest⟩ := hhead
  refine ⟨rest.map String.ofList, ?_⟩
  rw [segments, Text.splitAll, hrest]
  rfl

theorem firstSegment_of_isAbsolute {path : Path} (h : path.isAbsolute = true) :
    path.firstSegment = "" := by
  rw [isAbsolute, beq_iff_eq, List.head?_eq_some_iff] at h
  obtain ⟨rest, hrest⟩ := h
  rw [firstSegment, hrest]
  rfl

theorem firstSegment_ne_empty {path : Path} (habsolute : path.isAbsolute = false)
    (hempty : path.text ≠ "") : path.firstSegment ≠ "" := by
  cases hchars : path.text.toList with
  | nil => exact absurd (String.toList_eq_nil_iff.1 hchars) hempty
  | cons c rest =>
      have hc : c ≠ '/' := by simpa [isAbsolute, hchars] using habsolute
      rw [firstSegment, hchars, List.takeWhile_cons_of_pos (by simpa using hc)]
      intro h
      simpa using congrArg String.toList h

section Components

variable (path : Path)

theorem components_of_isAbsolute (h : path.isAbsolute = true) :
    path.components = .root :: path.segments.filterMap innerComponent? := by
  obtain ⟨rest, hrest⟩ := path.segments_eq_cons
  have hfirst : innerComponent? path.firstSegment = none := by
    rw [firstSegment_of_isAbsolute h]
    rfl
  rw [components, hrest, List.filterMap_cons_none hfirst, h]
  rfl

theorem head?_components (habsolute : path.isAbsolute = false) (hempty : path.isEmpty = false) :
    ∃ component, path.components.head? = some component ∧
      leadingComponent? path.firstSegment = some component ∧ component ≠ .root := by
  have hfirst := firstSegment_ne_empty habsolute (String.isEmpty_eq_false_iff.1 hempty)
  obtain ⟨component, hlead, hroot⟩ := exists_leadingComponent? hfirst
  obtain ⟨rest, hrest⟩ := path.segments_eq_cons
  refine ⟨component, ?_, hlead, hroot⟩
  rw [components, hrest, habsolute]
  simp [hlead]

theorem start_cases :
    path = ⟨""⟩ ∨
      (path.isEmpty = false ∧ path.isAbsolute = true ∧ path.components.head? = some .root) ∨
        (path.isEmpty = false ∧ path.isAbsolute = false ∧
          ∃ component, path.components.head? = some component ∧
            leadingComponent? path.firstSegment = some component ∧ component ≠ .root) := by
  cases hempty : path.isEmpty with
  | true =>
      obtain ⟨text⟩ := path
      exact .inl (congrArg Path.mk (String.isEmpty_iff.1 hempty))
  | false =>
      cases habsolute : path.isAbsolute with
      | true =>
          have hhead : path.components.head? = some .root := by
            rw [path.components_of_isAbsolute habsolute, List.head?_cons]
          exact .inr (.inl ⟨rfl, rfl, hhead⟩)
      | false => exact .inr (.inr ⟨rfl, rfl, path.head?_components habsolute hempty⟩)

theorem isAbsolute_iff : path.isAbsolute = true ↔ path.components.head? = some .root := by
  rcases path.start_cases with rfl | ⟨-, habsolute, hhead⟩ | ⟨-, hrelative, _, hhead, -, hroot⟩
  · decide
  · simp [habsolute, hhead]
  · simp [hrelative, hhead, hroot]

theorem components_eq_nil_iff : path.components = [] ↔ path.isEmpty = true := by
  rw [← List.head?_eq_none_iff]
  rcases path.start_cases with rfl | ⟨hempty, -, hhead⟩ | ⟨hempty, -, _, hhead, -⟩
  · decide
  · simp [hempty, hhead]
  · simp [hempty, hhead]

theorem isEmpty_of_same {a b : Path} (h : a.same b = true) : a.isEmpty = b.isEmpty := by
  rw [Bool.eq_iff_iff, ← a.components_eq_nil_iff, ← b.components_eq_nil_iff, same_iff.1 h]

/-- What the segments contribute besides a root or a dot in front can be read off the
components. -/
theorem inner_segments : path.segments.filterMap innerComponent? =
    path.components.filter fun component => component ≠ .root ∧ component ≠ .here := by
  have hinner (segments : List String) : (segments.filterMap innerComponent?).filter
      (fun component => component ≠ .root ∧ component ≠ .here) =
        segments.filterMap innerComponent? := by
    refine List.filter_eq_self.2 fun component hcomponent => ?_
    obtain ⟨segment, -, hsegment⟩ := List.mem_filterMap.1 hcomponent
    simpa using (segment_of_innerComponent? hsegment).2
  cases habsolute : path.isAbsolute with
  | true =>
      rw [path.components_of_isAbsolute habsolute, List.filter_cons_of_neg (by simp), hinner]
  | false =>
      obtain ⟨rest, hrest⟩ := path.segments_eq_cons
      have hskip : innerComponent? "." = none := rfl
      rw [components, hrest, habsolute]
      dsimp only
      rw [if_neg (by simp), List.filter_append, hinner]
      by_cases hhere : path.firstSegment = "."
      · rw [hhere, List.filterMap_cons_none hskip]
        rfl
      · rw [leadingComponent?_of_ne hhere, List.filterMap_cons]
        cases hfirst : innerComponent? path.firstSegment with
        | none => rfl
        | some component =>
            have hne := (segment_of_innerComponent? hfirst).2
            simp [hne]

end Components

theorem head?_components_eq_name_iff {path : Path} {text : String} :
    path.components.head? = some (.name text) ↔
      path.firstSegment = text ∧ text ≠ "" ∧ text ≠ "." ∧ text ≠ ".." := by
  rcases path.start_cases with rfl | ⟨-, habsolute, hhead⟩ | ⟨-, -, component, hhead, hlead, -⟩
  · have hcomponents : components ⟨""⟩ = [] := by decide
    rw [hcomponents, List.head?_nil]
    simp only [reduceCtorEq, false_iff]
    rintro ⟨hfirst, hne, -⟩
    exact hne hfirst.symm
  · rw [hhead, firstSegment_of_isAbsolute habsolute]
    simp only [Option.some.injEq, reduceCtorEq, false_iff]
    rintro ⟨hfirst, hne, -⟩
    exact hne hfirst.symm
  · rw [hhead, ← hlead, leadingComponent?_eq_name_iff]

theorem prefix_of_same {a b : Path} {start : List Char} (h : a.same b = true)
    (hslash : '/' ∉ start) (hname : ∃ c ∈ start, c ≠ '.') (hstart : start <+: a.text.toList) :
    start <+: b.text.toList := by
  obtain ⟨c, hc, hdot⟩ := hname
  obtain ⟨rest, hrest⟩ := hstart
  have hfirst : a.firstSegment.toList = start ++ rest.takeWhile (· != '/') := by
    rw [firstSegment, ← hrest, String.toList_ofList, List.takeWhile_append_of_pos]
    intro d hd
    have hne : d ≠ '/' := fun hd' => hslash (hd' ▸ hd)
    simpa using hne
  have hmem : c ∈ a.firstSegment.toList := hfirst ▸ List.mem_append_left _ hc
  have hhead : a.components.head? = some (.name a.firstSegment) := by
    refine head?_components_eq_name_iff.2 ⟨rfl, ?_, ?_, ?_⟩
    all_goals
      intro hdots
      rw [hdots] at hmem
      simp [hdot] at hmem
  rw [same_iff.1 h] at hhead
  have hother := (head?_components_eq_name_iff.1 hhead).1
  have hprefix : b.firstSegment.toList <+: b.text.toList := by
    rw [firstSegment, String.toList_ofList]
    exact List.takeWhile_prefix _
  rw [hother, hfirst] at hprefix
  exact (List.prefix_append _ _).trans hprefix

theorem inner_entryFront (dir : Path) :
    dir.entryFront.filterMap innerComponent? = dir.segments.filterMap innerComponent? := by
  by_cases hempty : dir.text = ""
  · obtain ⟨text⟩ := dir
    subst hempty
    decide
  · obtain ⟨first, rest, hfront, hsegments⟩ := exists_segments hempty
    have hskip : innerComponent? "" = none := rfl
    rw [hfront]
    rcases hsegments with hsegments | hsegments
    · rw [hsegments]
    · rw [hsegments, ← List.cons_append, List.filterMap_append, List.filterMap_cons_none hskip,
        List.filterMap_nil, List.append_nil]

theorem inner_entryFront_congr {a b : Path} (h : a.same b = true) :
    a.entryFront.filterMap innerComponent? = b.entryFront.filterMap innerComponent? := by
  rw [inner_entryFront, inner_entryFront, inner_segments, inner_segments, same_iff.1 h]

theorem mem_text_iff {path : Path} {c : Char} (hslash : c ≠ '/') (hdot : c ≠ '.') :
    c ∈ path.text.toList ↔
      ∃ component ∈ path.segments.filterMap innerComponent?, c ∈ component.segment.toList := by
  have hsegments : c ∈ path.text.toList ↔ ∃ segment ∈ path.segments, c ∈ segment.toList := by
    rw [Text.Chars.mem_iff_mem_splitAll hslash, segments, Text.splitAll]
    simp
  rw [hsegments]
  constructor
  · rintro ⟨segment, hsegment, hc⟩
    cases hcomponent : innerComponent? segment with
    | none =>
        rcases innerComponent?_eq_none_iff.1 hcomponent with rfl | rfl
        · simp at hc
        · simp [hdot] at hc
    | some component =>
        refine ⟨component, List.mem_filterMap.2 ⟨segment, hsegment, hcomponent⟩, ?_⟩
        rwa [(segment_of_innerComponent? hcomponent).1]
  · rintro ⟨component, hcomponent, hc⟩
    obtain ⟨segment, hsegment, hsome⟩ := List.mem_filterMap.1 hcomponent
    exact ⟨segment, hsegment, (segment_of_innerComponent? hsome).1 ▸ hc⟩

theorem isEmpty_join {dir entry : Path} (hentry : entry.isAbsolute = false)
    (h : dir.isEmpty = false) : (dir.join entry).isEmpty = false := by
  rw [isEmpty, String.isEmpty_eq_false_iff] at h ⊢
  intro hempty
  rcases dir.spelling_cases with hdir | ⟨front, hslash⟩ | ⟨hdir, hslash⟩
  · exact h hdir
  · have hjoin := join_of_slash hentry hslash
    simp [hempty] at hjoin
  · have hjoin := join_of_noSlash hentry hdir hslash
    simp [hempty] at hjoin

end Path

namespace FileTree

variable {tree : FileTree}

theorem walk_of_noDirectory {location : Location} {e : IoError} {segments : List String}
    (h : tree.requireDirectory location = .error e) (hsegments : segments ≠ []) :
    tree.walk location segments = .error e := by
  cases segments with
  | nil => exact absurd rfl hsegments
  | cons segment rest => rw [walk, step, h]

theorem walk_inner (tree : FileTree) (location : Location) (front : List String)
    {rest : List String} (hrest : rest ≠ []) :
    tree.walk location (front ++ rest) = tree.walk location
      ((front.filterMap Path.innerComponent?).map Component.segment ++ rest) := by
  induction front generalizing location with
  | nil => rfl
  | cons segment front ih =>
      rw [List.cons_append, walk]
      cases hcomponent : Path.innerComponent? segment with
      | none =>
          rw [List.filterMap_cons_none hcomponent, ← ih location, step]
          cases hrequired : tree.requireDirectory location with
          | error e => rw [walk_of_noDirectory hrequired (by simp [hrest])]
          | ok found =>
              dsimp only
              rw [if_pos (Path.innerComponent?_eq_none_iff.1 hcomponent)]
      | some component =>
          rw [List.filterMap_cons_some hcomponent, List.map_cons,
            (Path.segment_of_innerComponent? hcomponent).1, List.cons_append, walk]
          cases tree.step location segment with
          | error e => rfl
          | ok next => exact ih next

section Join

variable {a b entry : Path} (hsame : a.same b = true) (hentry : entry.isAbsolute = false)

include hsame

theorem start_congr (tree : FileTree) : tree.start a = tree.start b := by
  have habsolute : a.isAbsolute = b.isAbsolute := by
    rw [Bool.eq_iff_iff, a.isAbsolute_iff, b.isAbsolute_iff, Path.same_iff.1 hsame]
  rw [start, start, habsolute]

include hentry

theorem mem_text_join_congr {c : Char} (hslash : c ≠ '/') (hdot : c ≠ '.') :
    c ∈ (a.join entry).text.toList ↔ c ∈ (b.join entry).text.toList := by
  rw [Path.mem_text_iff hslash hdot, Path.mem_text_iff hslash hdot, Path.segments_join hentry,
    Path.segments_join hentry, List.filterMap_append, List.filterMap_append,
    Path.inner_entryFront_congr hsame]

/-- The same stands at an entry of a directory however the directory is spelled, as long as the path
of the entry is not too long. -/
theorem stat_join_congr (tree : FileTree) (ha : a.isEmpty = false) (hb : b.isEmpty = false)
    (hasize : (a.join entry).text.utf8ByteSize ≤ maxPathSize)
    (hbsize : (b.join entry).text.utf8ByteSize ≤ maxPathSize) :
    tree.stat (a.join entry) = tree.stat (b.join entry) := by
  have hnul : (a.join entry).text.toList.contains '\x00' =
      (b.join entry).text.toList.contains '\x00' := by
    rw [Bool.eq_iff_iff, List.contains_iff_mem, List.contains_iff_mem]
    exact mem_text_join_congr hsame hentry (by decide) (by decide)
  have hrefusal : refusal? (a.join entry) = refusal? (b.join entry) := by
    unfold refusal?
    rw [hnul, Path.isEmpty_join hentry ha, Path.isEmpty_join hentry hb,
      if_neg (Nat.not_lt.2 hasize), if_neg (Nat.not_lt.2 hbsize)]
  have hlocate : tree.locate (a.join entry) = tree.locate (b.join entry) := by
    unfold locate
    rw [hrefusal, start_join tree a hentry, start_join tree b hentry, start_congr hsame,
      Path.segments_join hentry, Path.segments_join hentry,
      walk_inner tree _ a.entryFront entry.segments_ne_nil,
      walk_inner tree _ b.entryFront entry.segments_ne_nil, Path.inner_entryFront_congr hsame]
  rw [stat, stat, hlocate]

end Join

end FileTree

end ActionLauncher
