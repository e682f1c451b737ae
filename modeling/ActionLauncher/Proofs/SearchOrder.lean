import Mathlib.Data.List.Induction
import ActionLauncher.Proofs.PathSpelling
import ActionLauncher.SearchPath

namespace ActionLauncher

namespace Text

namespace Chars

variable {sep : Char} {s : List Char}

end Chars

end Text

namespace SearchPath

/-- Whether the directory at some position is not empty, and no respelling of an earlier one. -/
def isFirst (pushed : List Path) (entry : Path × Nat) : Bool :=
  !entry.1.isEmpty && !(pushed.take entry.2).any fun earlier => earlier.same entry.1

/-- The first spellings of the directories that are not empty, in order. -/
def firstSpellings (pushed : List Path) : List Path :=
  (pushed.zipIdx.filter (isFirst pushed)).map Prod.fst

/-- The first readable file of a given name in all of the nonempty directories. -/
def scan (pushed : List Path) (files : FileTree) (name : String) : Option Path :=
  ((pushed.filter fun dir => !dir.isEmpty).map fun dir => dir.join ⟨name⟩).find? files.isReadable

/-- However one of the directories is spelled, the file can be read there or it cannot. -/
def ResolvesAlike (files : FileTree) (pushed : List Path) (name : String) : Prop :=
  ∀ a ∈ pushed, ∀ b ∈ pushed, a.isEmpty = false → b.isEmpty = false → a.same b = true →
    files.isReadable (a.join ⟨name⟩) = files.isReadable (b.join ⟨name⟩)

/-- Names in a tree do resolve alike, unless a spelling is longer than any path may be. -/
theorem resolvesAlike_of_size {pushed : List Path} {name : String} (files : FileTree)
    (h : ∀ dir ∈ pushed, (dir.join ⟨name⟩).text.utf8ByteSize ≤ FileTree.maxPathSize) :
    ResolvesAlike files pushed name := by
  intro a hamem b hbmem ha hb hsame
  cases hname : Path.isAbsolute ⟨name⟩ with
  | true => simp [Path.join, hname]
  | false =>
      have hstat := FileTree.stat_join_congr hsame hname files ha hb (h a hamem) (h b hbmem)
      rw [FileTree.isReadable, FileTree.isReadable, hstat]

/-- A search path stands for the directories that were pushed on it: it holds each of them once,
in its first spelling, and a search goes as it would through all of them. -/
structure StandsFor (path : SearchPath) (pushed : List Path) : Prop where
  nonempty : ∀ dir ∈ path.dirs, dir.isEmpty = false
  distinct : path.dirs.Pairwise fun a b => a.same b = false
  entries : path.dirs = firstSpellings pushed
  covers : ∀ dir ∈ pushed, dir.isEmpty = false → ∃ kept ∈ path.dirs, kept.same dir = true
  lookup : ∀ files name, ResolvesAlike files pushed name →
    path.find? files name = scan pushed files name

theorem firstSpellings_concat (pushed : List Path) (dir : Path) :
    firstSpellings (pushed ++ [dir]) = firstSpellings pushed ++
      if dir.isEmpty || pushed.any fun earlier => earlier.same dir then [] else [dir] := by
  have hfront : pushed.zipIdx.filter (isFirst (pushed ++ [dir])) =
      pushed.zipIdx.filter (isFirst pushed) := by
    refine List.filter_congr fun (other, i) hmem => ?_
    have hbound := (List.mem_zipIdx hmem).2.1
    rw [isFirst, isFirst, List.take_append_of_le_length (by dsimp only; omega)]
  have hlast : isFirst (pushed ++ [dir]) (dir, pushed.length) =
      !(dir.isEmpty || pushed.any fun earlier => earlier.same dir) := by
    rw [isFirst, List.take_append_of_le_length le_rfl, List.take_length, Bool.not_or]
  unfold firstSpellings
  rw [List.zipIdx_append, List.filter_append, List.map_append, hfront, List.zipIdx_singleton,
    Nat.zero_add, List.filter_cons, hlast]
  cases dir.isEmpty || pushed.any fun earlier => earlier.same dir <;> rfl

theorem firstSpellings_sublist (pushed : List Path) : (firstSpellings pushed).Sublist pushed := by
  have h := (List.filter_sublist (l := pushed.zipIdx) (p := isFirst pushed)).map Prod.fst
  rwa [List.zipIdx_map_fst] at h

theorem ResolvesAlike.mono {files : FileTree} {pushed more : List Path} {name : String}
    (h : ResolvesAlike files more name) (hsub : pushed ⊆ more) :
    ResolvesAlike files pushed name :=
  fun a ha b hb => h a (hsub ha) b (hsub hb)

namespace StandsFor

variable {path : SearchPath} {pushed : List Path}

/-- Whether a directory is on the path already can be told from what was pushed. -/
theorem any_same (h : path.StandsFor pushed) {dir : Path} (hdir : dir.isEmpty = false) :
    (path.dirs.any fun kept => kept.same dir) = pushed.any fun earlier => earlier.same dir := by
  rw [Bool.eq_iff_iff, List.any_eq_true, List.any_eq_true]
  constructor
  · rintro ⟨kept, hkept, hsame⟩
    rw [h.entries] at hkept
    exact ⟨kept, (firstSpellings_sublist pushed).subset hkept, hsame⟩
  · rintro ⟨earlier, hearlier, hsame⟩
    obtain ⟨kept, hkept, hrespelled⟩ :=
      h.covers earlier hearlier ((Path.isEmpty_of_same hsame).trans hdir)
    refine ⟨kept, hkept, ?_⟩
    rw [Path.same_iff, Path.same_iff.1 hrespelled, Path.same_iff.1 hsame]

theorem skip (h : path.StandsFor pushed) {dir : Path}
    (hskip : (dir.isEmpty || path.dirs.any fun kept => kept.same dir) = true) :
    path.StandsFor (pushed ++ [dir]) where
  nonempty := h.nonempty
  distinct := h.distinct
  entries := by
    rw [firstSpellings_concat, ← h.entries]
    cases hdir : dir.isEmpty with
    | true => simp
    | false =>
        rw [hdir, Bool.false_or, h.any_same hdir] at hskip
        simp [hskip]
  covers := by
    intro other hother hnonempty
    rcases List.mem_append.1 hother with hother | hother
    · exact h.covers other hother hnonempty
    · obtain rfl := List.mem_singleton.1 hother
      simpa [hnonempty] using hskip
  lookup := by
    intro files name halike
    rw [h.lookup files name (halike.mono (List.subset_append_left _ _))]
    unfold scan
    rw [List.filter_append, List.map_append, List.find?_append]
    cases hdir : dir.isEmpty with
    | true => simp [hdir]
    | false =>
        rw [hdir, Bool.false_or, h.any_same hdir, List.any_eq_true] at hskip
        obtain ⟨earlier, hearlier, hsame⟩ := hskip
        have hnonempty := (Path.isEmpty_of_same hsame).trans hdir
        have hfile : files.isReadable (earlier.join ⟨name⟩) = files.isReadable (dir.join ⟨name⟩) :=
          halike earlier (List.mem_append_left _ hearlier) dir
            (List.mem_append_right _ (List.mem_singleton_self dir)) hnonempty hdir hsame
        cases hfound : ((pushed.filter fun dir => !dir.isEmpty).map fun dir =>
            dir.join ⟨name⟩).find? files.isReadable with
        | some found => rfl
        | none =>
            -- The earlier spelling did not hold the file, so this one does not either.
            have hmissing := List.find?_eq_none.1 hfound (earlier.join ⟨name⟩)
              (List.mem_map_of_mem (List.mem_filter.2 ⟨hearlier, by simp [hnonempty]⟩))
            rw [hfile] at hmissing
            simp [hdir, hmissing]

theorem add (h : path.StandsFor pushed) {dir : Path}
    (hnew : (dir.isEmpty || path.dirs.any fun kept => kept.same dir) = false) :
    StandsFor ⟨path.dirs ++ [dir]⟩ (pushed ++ [dir]) := by
  obtain ⟨hdir, hfresh⟩ := Bool.or_eq_false_iff.1 hnew
  constructor
  case nonempty =>
    intro other hother
    rcases List.mem_append.1 hother with hother | hother
    · exact h.nonempty other hother
    · exact List.mem_singleton.1 hother ▸ hdir
  case distinct =>
    refine List.pairwise_append.2 ⟨h.distinct, List.pairwise_singleton _ _, ?_⟩
    intro kept hkept other hother
    rw [List.mem_singleton.1 hother]
    simpa using List.any_eq_false.1 hfresh kept hkept
  case entries =>
    rw [firstSpellings_concat, hdir, Bool.false_or, ← h.any_same hdir, hfresh, h.entries]
    rfl
  case covers =>
    intro other hother hnonempty
    rcases List.mem_append.1 hother with hother | hother
    · obtain ⟨kept, hkept, hsame⟩ := h.covers other hother hnonempty
      exact ⟨kept, List.mem_append_left _ hkept, hsame⟩
    · exact ⟨other, List.mem_append_right _ hother, Path.same_iff.2 rfl⟩
  case lookup =>
    intro files name halike
    have hfound := h.lookup files name (halike.mono (List.subset_append_left _ _))
    unfold find? scan at hfound ⊢
    rw [List.filter_append, List.map_append, List.map_append, List.find?_append,
      List.find?_append, hfound]
    simp [hdir]

theorem push (h : path.StandsFor pushed) (dir : Path) :
    (path.push dir).StandsFor (pushed ++ [dir]) := by
  unfold SearchPath.push
  split
  · rename_i hskip
    exact h.skip hskip
  · rename_i hnew
    exact h.add (Bool.not_eq_true _ ▸ hnew)

end StandsFor

example : (ofList [⟨"/etc/conf/"⟩, ⟨""⟩, ⟨"/etc//./conf"⟩, ⟨"etc/conf"⟩]).dirs =
    [⟨"/etc/conf/"⟩, ⟨"etc/conf"⟩] := by
  decide

end SearchPath

end ActionLauncher
