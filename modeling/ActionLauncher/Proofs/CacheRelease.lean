import Mathlib.Data.String.Basic
import ActionLauncher.Proofs.AmbientVariables
import ActionLauncher.Proofs.CacheDisposal
import ActionLauncher.Proofs.ToolEvidence

namespace ActionLauncher

open Launch

namespace FileTree

variable {tree : FileTree} {dir : Path} {name : String}

section Entry

variable {directory : Location} (hname : Path.IsName name)
  (hentry : tree.entryDirectory dir name = .ok directory)

include hname hentry

end Entry

end FileTree

namespace KerberosTools

open Provider

theorem utf8Size_of_isAlphanum {c : Char} (h : c.isAlphanum = true) : c.utf8Size = 1 := by
  have hbounds : 'A'.val.toNat = 65 ∧ 'Z'.val.toNat = 90 ∧ 'a'.val.toNat = 97 ∧
      'z'.val.toNat = 122 ∧ '0'.val.toNat = 48 ∧ '9'.val.toNat = 57 := by decide
  have hsmall : c.val.toNat ≤ 0x7F := by
    delta Char.isAlphanum Char.isAlpha Char.isUpper Char.isLower Char.isDigit at h
    simp only [Bool.or_eq_true, Bool.and_eq_true, decide_eq_true_eq, UInt32.le_iff_toNat_le,
      ge_iff_le] at h
    omega
  exact if_pos (UInt32.le_iff_toNat_le.2 hsmall)

theorem IsPlain.utf8ByteSize {s : String} (h : IsPlain s) : s.utf8ByteSize = s.length := by
  have hlen : ∀ chars : List Char, (∀ c ∈ chars, c.isAlphanum = true ∨ c = '_') →
      String.utf8Len chars = chars.length := by
    intro chars hchars
    induction chars with
    | nil => rfl
    | cons c rest ih =>
        obtain ⟨hc, hrest⟩ := List.forall_mem_cons.1 hchars
        have hsize : c.utf8Size = 1 := by
          rcases hc with halnum | rfl
          · exact utf8Size_of_isAlphanum halnum
          · decide
        rw [String.utf8Len_cons, ih hrest, hsize, List.length_cons]
  rw [← String.utf8Len_toList, hlen _ h, String.length_toList]

variable (tools : KerberosTools) (principal : String)

open Nesting (loggedInWorld)

end KerberosTools

end ActionLauncher
