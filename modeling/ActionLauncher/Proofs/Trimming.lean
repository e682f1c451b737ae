import Mathlib.Data.List.Basic
import Mathlib.Data.List.TakeWhile
import ActionLauncher.Text.Blank

namespace ActionLauncher

namespace Text.Chars

variable {s : List Char}

theorem isBlank_iff : isBlank s = true ↔ ∀ c ∈ s, isWhite c = true := by
  rw [isBlank, List.all_eq_true]

theorem trim_eq_nil_iff : trim s = [] ↔ isBlank s = true := by
  rw [isBlank_iff, trim, trimEnd, List.reverse_eq_nil_iff, List.dropWhile_eq_nil_iff, trimStart]
  constructor
  · intro h
    by_contra hsome
    have hne : s.dropWhile isWhite ≠ [] := fun hnil => hsome (List.dropWhile_eq_nil_iff.1 hnil)
    have hhead := List.head_dropWhile_not isWhite hne
    have hwhite := h _ (List.mem_reverse.2 (List.head_mem hne))
    rw [hhead] at hwhite
    exact absurd hwhite (by decide)
  · intro h c hc
    exact h c ((List.dropWhile_sublist _).subset (List.mem_reverse.1 hc))

theorem mem_of_mem_trim {c : Char} (h : c ∈ trim s) : c ∈ s := by
  rw [trim, trimEnd, List.mem_reverse] at h
  have hstart := List.mem_reverse.1 ((List.dropWhile_sublist _).subset h)
  exact (List.dropWhile_sublist _).subset hstart

theorem dropWhile_eq_self {p : Char → Bool} (h : ∀ c ∈ s.head?, p c = false) :
    s.dropWhile p = s := by
  cases s with
  | nil => rfl
  | cons c s => rw [List.dropWhile_cons, h c rfl, if_neg (by decide)]

theorem trim_eq_self (hfirst : ∀ c ∈ s.head?, isWhite c = false)
    (hlast : ∀ c ∈ s.getLast?, isWhite c = false) : trim s = s := by
  rw [← List.head?_reverse] at hlast
  rw [trim, trimStart, dropWhile_eq_self hfirst, trimEnd, dropWhile_eq_self hlast,
    List.reverse_reverse]

end Text.Chars

end ActionLauncher
