import TokenLint.Proofs.Text.Blank
import TokenLint.Text.Lower

/-!
# Characters That Stay

Words are looked for in the lower-case form of a text, without the blanks around
it. Most characters of the text are still there: all that are not blank and are
their own lower-case form, as everything below the capital letters is. So a text
with such a character is not taken for a word without it, whatever else there is
in the text.

## Theorems

* `lowerChar_of_lt`: Characters that are their own lower-case form.
* `mem_lower_strip`: They stay, unless they are blank.
* `strip_pad`: Blanks around a text do not matter.
-/

namespace TokenLint

namespace Text

section Stay

variable {p : Char → Bool} {c : Char} {cs : List Char}

theorem mem_dropWhile (hc : c ∈ cs) (hp : p c = false) : c ∈ cs.dropWhile p := by
  rw [← List.takeWhile_append_dropWhile (p := p) (l := cs), List.mem_append] at hc
  refine hc.resolve_left fun hfront => ?_
  rw [List.mem_takeWhile_imp hfront] at hp
  cases hp

theorem mem_dropTrailing (hc : c ∈ cs) (hp : p c = false) : c ∈ dropTrailing p cs :=
  List.mem_reverse.mpr (mem_dropWhile (List.mem_reverse.mpr hc) hp)

theorem mem_trim (hc : c ∈ cs) (hp : p c = false) : c ∈ trim p cs :=
  mem_dropTrailing (mem_dropWhile hc hp) hp

/-- Nothing below the capital letters has another form. -/
theorem lowerChar_of_lt (h : c.toNat < 0x41) : lowerChar c = [c] := by
  have hall : ∀ r ∈ caseRanges, 0x41 ≤ r.first := by decide +kernel
  have hnone : caseRanges.find? (·.covers c.toNat) = none := by
    refine List.find?_eq_none.mpr fun r hr hcovers => ?_
    rw [CaseRange.covers, Bool.and_eq_true, Bool.and_eq_true, decide_eq_true_eq] at hcovers
    have hfirst := hall r hr
    omega
  have hdotted : (c.toNat == 0x130) = false := beq_false_of_ne (by omega)
  rw [lowerChar, hdotted, hnone]
  rfl

/-- A character that is its own lower-case form is there afterwards. -/
theorem mem_lowerFrom (hlower : lowerChar c = [c]) (hc : c ∈ cs) (casedBefore : Bool) :
    c ∈ lowerFrom casedBefore cs := by
  induction cs generalizing casedBefore with
  | nil => exact absurd hc List.not_mem_nil
  | cons d cs ih =>
      rw [lowerFrom]
      rcases List.mem_cons.mp hc with rfl | hc
      · -- The letter with a form of its own at the end of a word is no such character.
        have hsigma : c ≠ 'Σ' := by
          rintro rfl
          revert hlower
          decide
        rw [if_neg fun h => hsigma h.1, hlower]
        exact List.mem_append_left _ List.mem_cons_self
      · exact List.mem_append_right _ (ih hc _)

end Stay

/-- A character stays if it is not blank and is its own lower-case form. -/
theorem mem_lower_strip {c : Char} {s : String} (hc : c ∈ s.toList) (hblank : isBlank c = false)
    (hlower : lowerChar c = [c]) : c ∈ (lower (strip s)).toList := by
  rw [lower, String.toList_ofList]
  refine mem_lowerFrom hlower ?_ false
  rw [strip, String.toList_ofList]
  exact mem_trim hc hblank

/-- Blanks around a text do not matter. -/
theorem strip_pad {before after : String} (hbefore : ∀ c ∈ before.toList, isBlank c = true)
    (hafter : ∀ c ∈ after.toList, isBlank c = true) (s : String) :
    strip (before ++ s ++ after) = strip s := by
  rw [strip, strip, trim, trim, String.toList_append, String.toList_append, List.append_assoc,
    List.dropWhile_append_of_pos hbefore, List.dropWhile_append]
  split
  · rename_i hempty
    rw [List.isEmpty_iff.mp hempty, List.dropWhile_eq_nil_iff.mpr hafter]
  · rw [dropTrailing_append, if_pos (List.all_eq_true.mpr hafter)]

end Text

end TokenLint
