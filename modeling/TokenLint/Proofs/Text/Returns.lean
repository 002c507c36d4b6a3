import TokenLint.Proofs.Text.Line

/-!
# Carriage Returns before Line Feeds

A text can end its lines with a line feed alone or with a carriage return in
front of it. `withReturns` takes the first form to the second. It lengthens
the text by one character for each line feed, so an offset moves by as many
characters as there are line feeds before it. Lines, and the text after the
last line feed, stay what they are, but for the carriage return at the end of
each line that is ended.

The laws are for texts put together from two, so that they can be used along a
source that is cut into pieces.

## Main definitions

* `withReturns`: The text with a carriage return before each line feed.
* `PairsReturns`: A text whose carriage returns all belong to line endings.
* `endWithReturn`: Lines, each that is ended with a carriage return behind it.

## Theorems

* `length_withReturns`: How much longer the text gets.
* `lastLine_withReturns`: What follows the last line feed stays.
* `lines_withReturns`: The lines of the longer text.
* `pairsReturns_withReturns`: All carriage returns belong to line endings.
* `unifyReturns_of_pairsReturns`: Such carriage returns are not alone.
-/

namespace TokenLint

namespace Text

/-- The text with a carriage return put before each line feed. -/
def withReturns (cs : List Char) : List Char :=
  cs.flatMap fun c => if c = '\n' then ['\r', '\n'] else [c]

@[simp] theorem withReturns_nil : withReturns [] = [] := rfl

@[simp] theorem withReturns_newline (cs : List Char) :
    withReturns ('\n' :: cs) = '\r' :: '\n' :: withReturns cs := by
  rw [withReturns, List.flatMap_cons, if_pos rfl]
  rfl

theorem withReturns_cons (c : Char) (cs : List Char) (hc : c ≠ '\n') :
    withReturns (c :: cs) = c :: withReturns cs := by
  rw [withReturns, List.flatMap_cons, if_neg hc]
  rfl

theorem withReturns_append (before text : List Char) :
    withReturns (before ++ text) = withReturns before ++ withReturns text := by
  simp only [withReturns, List.flatMap_append]

theorem withReturns_of_not_mem (cs : List Char) (h : '\n' ∉ cs) : withReturns cs = cs := by
  induction cs with
  | nil => rfl
  | cons c cs ih =>
      rw [List.mem_cons, not_or] at h
      rw [withReturns_cons c cs fun hc => h.1 hc.symm, ih h.2]

/-- The text gets longer by the number of its line feeds. -/
theorem length_withReturns (cs : List Char) :
    (withReturns cs).length = cs.length + breakCount cs := by
  induction cs with
  | nil => rfl
  | cons c cs ih =>
      by_cases hc : c = '\n'
      · rw [hc, withReturns_newline, breakCount, List.count_cons_self, ← breakCount]
        simp only [List.length_cons, ih]
        omega
      · rw [withReturns_cons c cs hc, breakCount, List.count_cons_of_ne hc, ← breakCount]
        simp only [List.length_cons, ih]
        omega

theorem mem_withReturns (c : Char) (cs : List Char) (hc : c ≠ '\r') :
    c ∈ withReturns cs ↔ c ∈ cs := by
  induction cs with
  | nil => exact Iff.rfl
  | cons d cs ih =>
      by_cases hd : d = '\n'
      · rw [hd, withReturns_newline, List.mem_cons, List.mem_cons, List.mem_cons, ih]
        exact ⟨fun h => h.resolve_left hc, Or.inr⟩
      · rw [withReturns_cons d cs hd, List.mem_cons, List.mem_cons, ih]

theorem breakCount_withReturns (cs : List Char) :
    breakCount (withReturns cs) = breakCount cs := by
  induction cs with
  | nil => rfl
  | cons c cs ih =>
      rw [breakCount, breakCount] at ih
      rw [breakCount, breakCount]
      by_cases hc : c = '\n'
      · rw [hc, withReturns_newline, List.count_cons_of_ne (by decide), List.count_cons_self,
          List.count_cons_self, ih]
      · rw [withReturns_cons c cs hc, List.count_cons_of_ne hc, List.count_cons_of_ne hc, ih]

/-- What follows the last line feed stays what it is. -/
theorem lastLine_withReturns (cs : List Char) : lastLine (withReturns cs) = lastLine cs := by
  by_cases h : '\n' ∈ cs
  · rcases exists_append_newline cs h with ⟨front, line, rfl, hline⟩
    rw [withReturns_append, withReturns_newline, withReturns_of_not_mem line hline,
      lastLine_append_newline front line hline, List.append_cons,
      lastLine_append_newline _ line hline]
  · rw [withReturns_of_not_mem cs h]

theorem getLast?_withReturns (cs : List Char) : (withReturns cs).getLast? = cs.getLast? := by
  rcases List.eq_nil_or_concat cs with rfl | ⟨front, c, rfl⟩
  · rfl
  · rw [List.concat_eq_append, withReturns_append]
    by_cases hc : c = '\n'
    · rw [hc, withReturns_newline, List.getLast?_append, List.getLast?_append]
      rfl
    · rw [withReturns_cons c [] hc, List.getLast?_append, List.getLast?_append]
      rfl

/-- Lines, with a carriage return put behind each that is ended. The last one
    is not. -/
def endWithReturn : List (List Char) → List (List Char)
  | [] => []
  | [line] => [line]
  | line :: next :: lines => (line ++ ['\r']) :: endWithReturn (next :: lines)

theorem endWithReturn_cons (line : List Char) (rest : List (List Char)) (h : rest ≠ []) :
    endWithReturn (line :: rest) = (line ++ ['\r']) :: endWithReturn rest := by
  cases rest with
  | nil => exact absurd rfl h
  | cons next rest => rw [endWithReturn]

theorem endWithReturn_ne_nil (rest : List (List Char)) (h : rest ≠ []) :
    endWithReturn rest ≠ [] := by
  fun_cases endWithReturn rest with
  | case1 => exact absurd rfl h
  | case2 line => exact List.cons_ne_nil _ _
  | case3 line next rest => exact List.cons_ne_nil _ _

/-- The lines of the longer text are those of the text, each that is ended with
    a carriage return behind it. -/
theorem lines_withReturns (cs : List Char) :
    lines (withReturns cs) = endWithReturn (lines cs) := by
  induction cs with
  | nil => rfl
  | cons c cs ih =>
      by_cases hc : c = '\n'
      · rcases exists_lines_cons '\r' ('\n' :: withReturns cs) (by decide) with
          ⟨line, rest, hbreak, hreturn⟩
        rw [lines_newline, List.cons.injEq] at hbreak
        rw [hc, withReturns_newline, hreturn, ← hbreak.1, ← hbreak.2, ih, lines_newline,
          endWithReturn_cons [] _ (lines_ne_nil cs), List.nil_append]
      · rcases exists_lines_cons c cs hc with ⟨line, rest, hcs, hccs⟩
        rcases exists_lines_cons c (withReturns cs) hc with ⟨line', rest', hcs', hccs'⟩
        rw [withReturns_cons c cs hc, hccs', hccs]
        rw [ih, hcs] at hcs'
        -- The line that the character belongs to is the last one, or has a return behind it.
        by_cases hrest : rest = []
        · rw [hrest, endWithReturn, List.cons.injEq] at hcs'
          rw [hrest, ← hcs'.1, ← hcs'.2, endWithReturn]
        · rw [endWithReturn_cons line rest hrest, List.cons.injEq] at hcs'
          rw [endWithReturn_cons _ rest hrest, ← hcs'.1, ← hcs'.2, List.cons_append]

/-- A text whose carriage returns are each directly followed by a line feed. -/
def PairsReturns (cs : List Char) : Prop :=
  ∀ i : Nat, cs[i]? = some '\r' → cs[i + 1]? = some '\n'

/-- Where there was no carriage return, those that are put in are the only ones. -/
theorem pairsReturns_withReturns (cs : List Char) (h : '\r' ∉ cs) :
    PairsReturns (withReturns cs) := by
  induction cs with
  | nil =>
      intro i hi
      simp only [withReturns_nil, List.getElem?_nil, reduceCtorEq] at hi
  | cons c cs ih =>
      intro i hi
      rw [List.mem_cons, not_or] at h
      have htail := ih h.2
      by_cases hc : c = '\n'
      · rw [hc, withReturns_newline] at hi ⊢
        match i with
        | 0 => rfl
        | 1 => simp only [List.getElem?_cons_succ, List.getElem?_cons_zero, Option.some.injEq,
            Char.reduceEq] at hi
        | i + 2 => exact htail i hi
      · rw [withReturns_cons c cs hc] at hi ⊢
        match i with
        | 0 =>
            rw [List.getElem?_cons_zero, Option.some.injEq] at hi
            exact absurd hi.symm h.1
        | i + 1 => exact htail i hi

theorem PairsReturns.of_append (front : List Char) {back : List Char}
    (h : PairsReturns (front ++ back)) : PairsReturns back := by
  intro i hi
  have hback : ∀ j, (front ++ back)[front.length + j]? = back[j]? := by
    intro j
    rw [List.getElem?_append_right (Nat.le_add_right _ _), Nat.add_sub_cancel_left]
  rw [← hback] at hi
  rw [← hback, ← Nat.add_assoc]
  exact h _ hi

/-- A carriage return that belongs to a line ending is read as it is. -/
theorem unifyReturns_of_pairsReturns (cs : List Char) (h : PairsReturns cs) :
    unifyReturns cs = cs := by
  fun_induction unifyReturns cs with
  | case1 => rfl
  | case2 cs ih => rw [ih (PairsReturns.of_append ['\r', '\n'] h)]
  | case3 c cs hnext ih =>
      have hc : c ≠ '\r' := by
        rintro rfl
        have hfeed := h 0 rfl
        cases cs with
        | nil => simp only [List.getElem?_cons_succ, List.getElem?_nil, reduceCtorEq] at hfeed
        | cons d cs =>
            simp only [List.getElem?_cons_succ, List.getElem?_cons_zero, Option.some.injEq] at hfeed
            exact hnext cs rfl (by rw [hfeed])
      rw [if_neg hc, ih (PairsReturns.of_append [c] h)]

end Text

end TokenLint
