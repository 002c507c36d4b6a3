import TokenLint.Text.Line

/-!
# Laws of Lines

What the views of a text by its line feeds do to a text that is put together
from two. The line feeds of the two add up, and what follows the last of them
depends on the second text alone as soon as that one has a line feed.
Everything that counts places over a growing prefix rests on these two facts.

`lastLine` is computed from the end of a text. `lastLine_append_newline` says
what it is without reading backwards, and every text with a line feed has the
form that lemma asks for, so the other laws are read off it. `lines` is
computed from the front, and a text that is put together at a line feed has the
lines of its two parts.

Reading lone carriage returns as line feeds changes characters one for one.
No offset moves, and a text without carriage returns stays as it is.

## Theorems

* `breakCount_append`: Line feeds add up.
* `lastLine_of_not_mem`: A text without line feeds is its own last line.
* `lastLine_append_newline`: What follows the last line feed.
* `exists_append_newline`: A text is cut at its last line feed.
* `lastLine_append_of_mem`: A line feed hides all that is before it.
* `lastLine_append_of_not_mem`: Text without line feeds goes on with the line.
* `lines_append_newline`, `exists_lines_append`: Lines of a text that is put
  together from two.
* `lines_append_of_not_mem`, `lines_eq_append_lastLine`: The last line, and what
  goes on with it.
* `mem_of_mem_lines`: What a line is made of.
* `intercalate_lines`, `lines_intercalate`: Joining the lines gives the text back,
  and lines that are joined are the lines of the text.
* `exists_line_of_prefix`: What follows the last line feed begins a line.
* `length_unifyReturns`: Reading lone returns as line feeds moves no offset.
* `unifyReturns_of_not_mem`: A text without returns is read as it is.
-/

namespace TokenLint

namespace Text

theorem breakCount_append (before text : List Char) :
    breakCount (before ++ text) = breakCount before + breakCount text := by
  simp only [breakCount, List.count_append]

theorem breakCount_of_not_mem (text : List Char) (h : '\n' ∉ text) : breakCount text = 0 := by
  simp only [breakCount, List.count_eq_zero]
  exact h

theorem breakCount_pos (text : List Char) (h : '\n' ∈ text) : 0 < breakCount text := by
  simp only [breakCount, List.count_pos_iff]
  exact h

/-- Nothing stops the reading of a text without line feeds from its end. -/
theorem bne_of_mem_reverse {text : List Char} (h : '\n' ∉ text) :
    ∀ c ∈ text.reverse, (c != '\n') = true := by
  intro c hc
  rw [bne_iff_ne]
  rintro rfl
  exact h (List.mem_reverse.mp hc)

/-- What follows the last line feed. The text is read from its end, so the
    line feed stops the reading after exactly the part that has none. -/
theorem lastLine_append_newline (before text : List Char) (h : '\n' ∉ text) :
    lastLine (before ++ '\n' :: text) = text := by
  rw [lastLine, List.reverse_append, List.reverse_cons, List.append_assoc,
    List.takeWhile_append_of_pos (bne_of_mem_reverse h)]
  simp only [List.singleton_append, List.takeWhile_cons, bne_self_eq_false,
    Bool.false_eq_true, if_false, List.append_nil, List.reverse_reverse]

theorem lastLine_of_not_mem (text : List Char) (h : '\n' ∉ text) : lastLine text = text := by
  rw [lastLine, ← List.append_nil text.reverse,
    List.takeWhile_append_of_pos (bne_of_mem_reverse h), List.takeWhile_nil, List.append_nil,
    List.reverse_reverse]

/-- A text with a line feed is cut at the last one. -/
theorem exists_append_newline (text : List Char) (h : '\n' ∈ text) :
    ∃ before line, text = before ++ '\n' :: line ∧ '\n' ∉ line := by
  rcases List.eq_append_cons_of_mem (List.mem_reverse.mpr h) with ⟨line, before, heq, hline⟩
  refine ⟨before.reverse, line.reverse, ?_, fun hc => hline (List.mem_reverse.mp hc)⟩
  rw [← List.reverse_reverse text, heq]
  simp only [List.reverse_append, List.reverse_cons, List.append_assoc, List.singleton_append]

/-- A line feed hides all that is before it. -/
theorem lastLine_append_of_mem (before text : List Char) (h : '\n' ∈ text) :
    lastLine (before ++ text) = lastLine text := by
  rcases exists_append_newline text h with ⟨front, line, rfl, hline⟩
  rw [← List.append_assoc, lastLine_append_newline _ line hline,
    lastLine_append_newline front line hline]

/-- Text without line feeds goes on with the line before it. -/
theorem lastLine_append_of_not_mem (before text : List Char) (h : '\n' ∉ text) :
    lastLine (before ++ text) = lastLine before ++ text := by
  by_cases hb : '\n' ∈ before
  · rcases exists_append_newline before hb with ⟨front, line, rfl, hline⟩
    have hboth : '\n' ∉ line ++ text := List.not_mem_append hline h
    rw [List.append_assoc, List.cons_append, lastLine_append_newline front _ hboth,
      lastLine_append_newline front line hline]
  · have hboth : '\n' ∉ before ++ text := List.not_mem_append hb h
    rw [lastLine_of_not_mem _ hboth, lastLine_of_not_mem before hb]

/-- A line feed ends the last line and opens an empty one. -/
theorem lastLine_append_singleton (before : List Char) : lastLine (before ++ ['\n']) = [] :=
  lastLine_append_newline before [] List.not_mem_nil

theorem newline_not_mem_lastLine (text : List Char) : '\n' ∉ lastLine text := by
  intro h
  have hall := List.all_eq_true.mp List.all_takeWhile _ (List.mem_reverse.mp h)
  simp only [bne_self_eq_false, Bool.false_eq_true] at hall

theorem lines_newline (cs : List Char) : lines ('\n' :: cs) = [] :: lines cs := by
  rw [lines, splitOn, if_pos rfl, lines]

/-- A character that is no line feed belongs to the first line. -/
theorem exists_lines_cons (c : Char) (cs : List Char) (hc : c ≠ '\n') :
    ∃ line rest, lines cs = line :: rest ∧ lines (c :: cs) = (c :: line) :: rest := by
  cases hl : lines cs with
  | nil =>
      cases cs with
      | nil => simp only [lines, splitOn, reduceCtorEq] at hl
      | cons d cs =>
          rw [lines, splitOn] at hl
          split at hl
          · simp only [reduceCtorEq] at hl
          · split at hl <;> simp only [reduceCtorEq] at hl
  | cons line rest =>
      refine ⟨line, rest, rfl, ?_⟩
      rw [lines] at hl
      rw [lines, splitOn, if_neg hc, hl]

theorem lastLine_cons_newline (cs : List Char) : lastLine ('\n' :: cs) = lastLine cs := by
  by_cases h : '\n' ∈ cs
  · exact lastLine_append_of_mem ['\n'] cs h
  · rw [lastLine_of_not_mem cs h]
    exact lastLine_append_newline [] cs h

/-- There is one line more than there are line feeds. -/
theorem length_lines (cs : List Char) : (lines cs).length = breakCount cs + 1 := by
  induction cs with
  | nil => rfl
  | cons c cs ih =>
      by_cases hc : c = '\n'
      · rw [hc, lines_newline, List.length_cons, ih, breakCount, breakCount, List.count_cons_self]
      · rcases exists_lines_cons c cs hc with ⟨line, rest, hcs, hccs⟩
        rw [hcs] at ih
        rw [hccs, breakCount, List.count_cons_of_ne hc, ← breakCount, ← ih, List.length_cons,
          List.length_cons]

theorem lines_ne_nil (cs : List Char) : lines cs ≠ [] := by
  rw [← List.length_pos_iff, length_lines]
  exact Nat.succ_pos _

/-- A line has characters of the text only, and no line feed. -/
theorem mem_of_mem_lines {cs line : List Char} (h : line ∈ lines cs) :
    ∀ c ∈ line, c ∈ cs ∧ c ≠ '\n' := by
  induction cs generalizing line with
  | nil =>
      intro c hc
      rw [lines, splitOn, List.mem_singleton] at h
      rw [h] at hc
      exact absurd hc List.not_mem_nil
  | cons d cs ih =>
      intro c hc
      by_cases hd : d = '\n'
      · rw [hd, lines_newline, List.mem_cons] at h
        rcases h with rfl | h
        · exact absurd hc List.not_mem_nil
        · exact ⟨List.mem_cons_of_mem d (ih h c hc).1, (ih h c hc).2⟩
      · rcases exists_lines_cons d cs hd with ⟨first, rest, hcs, hdcs⟩
        rw [hcs] at ih
        rw [hdcs, List.mem_cons] at h
        rcases h with rfl | h
        · rcases List.mem_cons.mp hc with rfl | hc
          · exact ⟨List.mem_cons_self, hd⟩
          · have hfirst := ih List.mem_cons_self c hc
            exact ⟨List.mem_cons_of_mem d hfirst.1, hfirst.2⟩
        · have hrest := ih (List.mem_cons_of_mem first h) c hc
          exact ⟨List.mem_cons_of_mem d hrest.1, hrest.2⟩

theorem newline_not_mem_of_mem_lines {cs line : List Char} (h : line ∈ lines cs) :
    '\n' ∉ line :=
  fun hmem => (mem_of_mem_lines h '\n' hmem).2 rfl

/-- A line feed keeps the lines on its two sides apart. -/
theorem lines_append_newline (before text : List Char) :
    lines (before ++ '\n' :: text) = lines before ++ lines text := by
  induction before with
  | nil => rw [List.nil_append, lines_newline]; rfl
  | cons c before ih =>
      rw [List.cons_append]
      by_cases hc : c = '\n'
      · rw [hc, lines_newline, lines_newline, ih, List.cons_append]
      · rcases exists_lines_cons c before hc with ⟨line, rest, hb, hcb⟩
        rcases exists_lines_cons c (before ++ '\n' :: text) hc with ⟨line', rest', hb', hcb'⟩
        rw [ih, hb, List.cons_append, List.cons.injEq] at hb'
        rw [hcb, hcb', ← hb'.1, ← hb'.2, List.cons_append]

/-- Text without line feeds lengthens the first line of what follows it. -/
theorem exists_lines_append (line text : List Char) (h : '\n' ∉ line) :
    ∃ first rest, lines text = first :: rest ∧ lines (line ++ text) = (line ++ first) :: rest := by
  induction line with
  | nil =>
      cases hl : lines text with
      | nil => exact absurd hl (lines_ne_nil text)
      | cons first rest => exact ⟨first, rest, rfl, hl⟩
  | cons c line ih =>
      rw [List.mem_cons, not_or] at h
      rcases ih h.2 with ⟨first, rest, htext, hline⟩
      rcases exists_lines_cons c (line ++ text) fun hc => h.1 hc.symm with
        ⟨first', rest', hline', hcline⟩
      rw [hline, List.cons.injEq] at hline'
      exact ⟨first, rest, htext, by rw [List.cons_append, hcline, ← hline'.1, ← hline'.2]; rfl⟩

/-- The lines of a text, joined by line feeds, are the text again. -/
theorem intercalate_lines (cs : List Char) : ['\n'].intercalate (lines cs) = cs := by
  induction cs with
  | nil => rfl
  | cons c cs ih =>
      by_cases hc : c = '\n'
      · rw [hc, lines_newline, List.intercalate_cons_of_ne_nil (lines_ne_nil cs), ih]
        rfl
      · rcases exists_lines_cons c cs hc with ⟨line, rest, hcs, hccs⟩
        rw [hcs] at ih
        rw [hccs, ← ih]
        -- The character goes in front whether or not other lines follow.
        cases rest with
        | nil => rfl
        | cons next rest => rw [List.intercalate_cons_cons, List.intercalate_cons_cons]; rfl

/-- A text without line feeds is its own line. -/
theorem lines_of_not_mem {line : List Char} (h : '\n' ∉ line) : lines line = [line] := by
  rcases exists_lines_append line [] h with ⟨first, rest, hnil, hline⟩
  obtain ⟨rfl, rfl⟩ : [] = first ∧ [] = rest := List.cons.inj hnil
  rwa [List.append_nil] at hline

/-- Text without line feeds lengthens the last line of what is before it. -/
theorem lines_append_of_not_mem (before : List Char) {text : List Char} (h : '\n' ∉ text) :
    lines (before ++ text) = (lines before).dropLast ++ [lastLine before ++ text] := by
  by_cases hb : '\n' ∈ before
  · rcases exists_append_newline before hb with ⟨front, line, rfl, hline⟩
    have hboth : '\n' ∉ line ++ text := List.not_mem_append hline h
    rw [List.append_assoc, List.cons_append, lines_append_newline, lines_append_newline,
      lines_of_not_mem hboth, lines_of_not_mem hline, List.dropLast_concat,
      lastLine_append_newline front line hline]
  · have hboth : '\n' ∉ before ++ text := List.not_mem_append hb h
    rw [lines_of_not_mem hboth, lines_of_not_mem hb, lastLine_of_not_mem before hb]
    rfl

theorem lines_eq_append_lastLine (text : List Char) :
    lines text = (lines text).dropLast ++ [lastLine text] := by
  have h := lines_append_of_not_mem text (List.not_mem_nil (a := '\n'))
  rwa [List.append_nil, List.append_nil] at h

/-- Lines that are joined by line feeds are the lines of the text. -/
theorem lines_intercalate {ls : List (List Char)} (hsome : ls ≠ [])
    (h : ∀ line ∈ ls, '\n' ∉ line) : lines (['\n'].intercalate ls) = ls := by
  induction ls with
  | nil => exact absurd rfl hsome
  | cons line rest ih =>
      have hline := h line List.mem_cons_self
      cases rest with
      | nil => rw [List.intercalate_singleton, lines_of_not_mem hline]
      | cons next rest =>
          rw [List.intercalate_cons_cons, List.append_assoc, List.singleton_append,
            lines_append_newline, lines_of_not_mem hline, List.singleton_append,
            ih (List.cons_ne_nil next rest) fun other hother =>
              h other (List.mem_cons_of_mem line hother)]

/-- The first of several lines ends with a line feed. -/
theorem intercalate_cons_newline (line : List Char) {rest : List (List Char)} (h : rest ≠ []) :
    ['\n'].intercalate (line :: rest) = line ++ ['\n'] ++ ['\n'].intercalate rest :=
  List.intercalate_cons_of_ne_nil h

theorem append_intercalate_cons (before line : List Char) {rest : List (List Char)}
    (h : rest ≠ []) : before ++ ['\n'].intercalate (line :: rest) =
      before ++ line ++ ['\n'] ++ ['\n'].intercalate rest := by
  rw [intercalate_cons_newline line h, ← List.append_assoc, ← List.append_assoc]

/-- What follows the last line feed of a text begins a line of every text that
    goes on from there. -/
theorem exists_line_of_prefix {before text : List Char} (h : before <+: text) :
    ∃ more, (lines text)[breakCount before]? = some (lastLine before ++ more) := by
  rcases h with ⟨after, rfl⟩
  by_cases hb : '\n' ∈ before
  · rcases exists_append_newline before hb with ⟨front, line, rfl, hline⟩
    rcases exists_lines_append line after hline with ⟨first, rest, _, hlines⟩
    have hcount : breakCount (front ++ '\n' :: line) = (lines front).length := by
      rw [breakCount_append, breakCount, breakCount, List.count_cons_self, ← breakCount,
        ← breakCount, breakCount_of_not_mem line hline, length_lines]
    refine ⟨first, ?_⟩
    rw [hcount, List.append_assoc, List.cons_append, lines_append_newline, hlines,
      List.getElem?_append_right (Nat.le_refl _), Nat.sub_self,
      lastLine_append_newline front line hline]
    rfl
  · rcases exists_lines_append before after hb with ⟨first, rest, _, hlines⟩
    refine ⟨first, ?_⟩
    rw [breakCount_of_not_mem before hb, hlines, lastLine_of_not_mem before hb]
    rfl

/-- Reading lone returns as line feeds moves no offset. -/
@[simp] theorem length_unifyReturns (cs : List Char) :
    (unifyReturns cs).length = cs.length := by
  fun_induction unifyReturns cs with
  | case1 => rfl
  | case2 cs ih => simp only [List.length_cons, ih]
  | case3 c cs _ ih => simp only [List.length_cons, ih]

/-- A text without returns is read as it is. -/
theorem unifyReturns_of_not_mem (cs : List Char) (h : '\r' ∉ cs) : unifyReturns cs = cs := by
  fun_induction unifyReturns cs with
  | case1 => rfl
  | case2 cs _ => exact absurd List.mem_cons_self h
  | case3 c cs _ ih =>
      rw [List.mem_cons, not_or] at h
      rw [if_neg (fun hc => h.1 hc.symm), ih h.2]

end Text

end TokenLint
