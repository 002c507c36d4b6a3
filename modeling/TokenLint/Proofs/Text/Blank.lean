import Mathlib.Data.List.DropRight
import TokenLint.Text.Blank

/-!
# Laws of Tails and Blanks

A text without its longest tail in a class is what the library computes by
`List.rdropWhile`, so the laws of that are at hand. What is added here is how
such a tail behaves when a text is put together from two: it reaches back into
the first part if and only if the second part is all tail.

Stripping a text leaves nothing to strip. The front is stripped first, and
dropping a tail later cannot bring a blank back to the front, since it leaves
either nothing or the first character where it was.

## Main definitions

* `Visible`: Texts with a character that is no blank.

## Theorems

* `dropTrailing_append`: The tail of a text that is put together.
* `dropTrailing_eq_self`: Texts without a tail.
* `strip_strip`: Stripping a text twice is stripping it once.
* `exists_strip_cons`, `strip_eq_empty_iff`: What is left of a text.
* `isTidy_iff`, `isTidy_strip`: Names without blanks around them.
-/

namespace TokenLint

namespace Text

section Tail

variable (p : Char → Bool)

theorem dropTrailing_eq_rdropWhile (cs : List Char) : dropTrailing p cs = cs.rdropWhile p := rfl

theorem dropTrailing_isPrefix (cs : List Char) : dropTrailing p cs <+: cs :=
  List.rdropWhile_prefix p cs

theorem dropTrailing_eq_nil_iff {cs : List Char} :
    dropTrailing p cs = [] ↔ cs.all p = true := by
  rw [dropTrailing_eq_rdropWhile, List.rdropWhile_eq_nil_iff, List.all_eq_true]

/-- The tail reaches back over a part that is all tail, and otherwise it is in that part. -/
theorem dropTrailing_append (front piece : List Char) :
    dropTrailing p (front ++ piece) =
      if piece.all p then dropTrailing p front else front ++ dropTrailing p piece := by
  have hempty : (piece.reverse.dropWhile p).isEmpty = piece.all p := by
    rw [Bool.eq_iff_iff, List.isEmpty_iff, List.dropWhile_eq_nil_iff, List.all_eq_true]
    simp only [List.mem_reverse]
  rw [dropTrailing, List.reverse_append, List.dropWhile_append, hempty]
  split
  · rfl
  · rw [List.reverse_append, List.reverse_reverse, dropTrailing]

/-- A text that does not end in the class has no tail. -/
theorem dropTrailing_eq_self {cs : List Char} (h : ∀ c, cs.getLast? = some c → ¬ p c = true) :
    dropTrailing p cs = cs := by
  rw [dropTrailing_eq_rdropWhile, List.rdropWhile_eq_self_iff]
  exact fun hne => h _ (List.getLast?_eq_some_getLast hne)

end Tail

theorem trim_trim (p : Char → Bool) (cs : List Char) : trim p (trim p cs) = trim p cs := by
  have hfront : (trim p cs).dropWhile p = trim p cs := by
    rw [List.dropWhile_eq_self_iff]
    intro hpos
    have hkept : trim p cs <+: cs.dropWhile p := dropTrailing_isPrefix p _
    rw [hkept.getElem hpos]
    exact List.dropWhile_get_zero_not p cs (hpos.trans_le hkept.length_le)
  rw [trim, hfront, trim, dropTrailing_eq_rdropWhile, dropTrailing_eq_rdropWhile,
    List.rdropWhile_idempotent]

/-- Stripping a text leaves nothing to strip. -/
theorem strip_strip (s : String) : strip (strip s) = strip s := by
  rw [strip, strip, String.toList_ofList, trim_trim]

/-- A text with a character that is no blank. -/
def Visible (s : String) : Prop := ∃ c ∈ s.toList, isBlank c = false

/-- What is left of such a text when it is stripped starts with a character that is no blank. -/
theorem exists_strip_cons {s : String} (h : Visible s) :
    ∃ c cs, (strip s).toList = c :: cs ∧ isBlank c = false := by
  cases hfront : s.toList.dropWhile isBlank with
  | nil =>
      obtain ⟨c, hc, hvisible⟩ := h
      rw [List.dropWhile_eq_nil_iff.mp hfront c hc] at hvisible
      cases hvisible
  | cons c cs =>
      have hc := List.head?_dropWhile_not isBlank s.toList
      rw [hfront, List.head?_cons] at hc
      rw [strip, String.toList_ofList, trim, hfront, ← List.singleton_append, dropTrailing_append]
      -- The tail is behind the first character, or it is all there is behind it.
      split
      · have hlast : dropTrailing isBlank [c] = [c] := by
          refine dropTrailing_eq_self isBlank fun d hd => ?_
          rw [List.getLast?_singleton, Option.some.injEq] at hd
          rw [← hd, hc]
          exact Bool.false_ne_true
        exact ⟨c, [], hlast, hc⟩
      · exact ⟨c, dropTrailing isBlank cs, rfl, hc⟩

/-- Nothing is left of a text that has blanks only. -/
theorem strip_eq_empty_iff {s : String} : strip s = "" ↔ ¬ Visible s := by
  refine ⟨fun hempty hvisible => ?_, fun hblank => ?_⟩
  · obtain ⟨c, cs, hcons, _⟩ := exists_strip_cons hvisible
    rw [hempty] at hcons
    cases hcons
  · have hall : s.toList.dropWhile isBlank = [] :=
      List.dropWhile_eq_nil_iff.mpr fun c hc => by
        by_contra hvisible
        exact hblank ⟨c, hc, Bool.not_eq_true _ ▸ hvisible⟩
    rw [strip, trim, hall]
    rfl

theorem isTidy_iff {s : String} : isTidy s = true ↔ s ≠ "" ∧ strip s = s := by
  rw [isTidy, Bool.and_eq_true, bne_iff_ne, beq_iff_eq]

theorem isTidy_strip {s : String} (h : strip s ≠ "") : isTidy (strip s) = true :=
  isTidy_iff.mpr ⟨h, strip_strip s⟩

end Text

end TokenLint
