import TokenLint.Analysis.FileReport
import TokenLint.Progress
import TokenLint.Proofs.Text.Line

/-!
# Progress Line by Line

A line end is written late: not behind the sign that fills a line, but in front
of the next one, if there is one. So a text that ends where a line is full does
not end with a line feed, and it is the number of signs in the open line that
tells whether the next sign has to wait for one.

`Progress.Shows` says what a text that was written so far has to do with the
state. Its lines are full up to the last, which is as long as the state says
and never empty once anything was written. One more sign keeps this, whether it
goes on with the line or opens the next, and a whole sequence of signs then
keeps it by induction.

## Main definitions

* `Notice`: What a sign is written for.
* `Progress.written`: The characters that are written.
* `Progress.Shows`: What a state has to do with the text before it.

## Theorems

* `Progress.shows_glyph`: One more sign.
* `Progress.shows_glyphs`: Several more signs.
* `Progress.Shows.not_starts`, `Progress.Shows.not_ends`: Where no line feed is.
* `Progress.glyphs_by_line`: What is written, read line by line.
-/

namespace TokenLint

/-- What a sign is written for. -/
inductive Notice where
  /-- A file has finished. -/
  | finished (r : FileReport)
  /-- The sign itself was asked for. -/
  | sign (text : String)

/-- The sign that is written. -/
def Notice.glyph : Notice → String
  | finished r => r.status.glyph
  | sign text => text

namespace Progress

/-- The characters that are written. -/
def written (writes : List String) : List Char := writes.flatMap String.toList

/-- A state after a text with signs in lines of a width. -/
structure Shows (p : Progress) (width : Nat) (signs text : List Char) : Prop where
  /-- The width stays. -/
  fixed : p.width = width
  /-- All signs are counted. -/
  counted : p.count = signs.length
  /-- The text has the signs, and line feeds besides. -/
  shown : text.filter (· ≠ '\n') = signs
  /-- All lines but the last are full. -/
  full : ∀ line ∈ (Text.lines text).dropLast, line.length = width
  /-- The last line is as long as the state says. -/
  reached : (Text.lastLine text).length = p.column
  /-- It is not longer than a full one. -/
  fits : p.column ≤ width
  /-- It is empty only if nothing was written. -/
  begun : text ≠ [] → 0 < p.column

theorem shows_start (width : Nat) : (start width).Shows width [] [] where
  fixed := rfl
  counted := rfl
  shown := rfl
  full _ h := absurd h List.not_mem_nil
  reached := rfl
  fits := Nat.zero_le width
  begun h := absurd rfl h

section Signs

variable {p : Progress} {width : Nat} {signs text : List Char}

/-- A sign goes on with the line while there is room, and opens the next line when there is
    none. -/
theorem shows_glyph (h : p.Shows width signs text) (hwidth : 1 ≤ width) {c : Char}
    (hc : c ≠ '\n') :
    (p.glyph (String.singleton c)).2.Shows width (signs ++ [c])
      (text ++ written (p.glyph (String.singleton c)).1) := by
  have hsign : '\n' ∉ [c] := fun hmem => hc (List.mem_singleton.mp hmem).symm
  have hkeep : [c].filter (· ≠ '\n') = [c] := List.filter_cons_of_pos (decide_eq_true hc)
  have hcount : p.count + 1 = (signs ++ [c]).length := by
    rw [h.counted, List.length_append, List.length_singleton]
  rw [glyph, h.fixed]
  split
  · -- The line is full, so its end is written now and a line begins with the sign.
    rename_i hfull
    have hlength : (Text.lastLine text).length = width := by
      have hfits := h.fits
      rw [h.reached]
      omega
    have hwritten : text ++ written ["\n", String.singleton c] = text ++ '\n' :: [c] := by
      simp only [written, List.flatMap_cons, List.flatMap_nil, String.toList_singleton]
      rfl
    have hlines : (Text.lines (text ++ '\n' :: [c])).dropLast = Text.lines text := by
      rw [Text.lines_append_newline, Text.lines_of_not_mem hsign, List.dropLast_concat]
    rw [hwritten]
    refine ⟨rfl, hcount, ?_, fun line hline => ?_, ?_, hwidth, fun _ => Nat.one_pos⟩
    · rw [List.filter_append, h.shown, List.filter_cons_of_neg (by decide), hkeep]
    · rw [hlines, Text.lines_eq_append_lastLine, List.mem_append, List.mem_singleton] at hline
      exact hline.elim (h.full line) fun heq => heq ▸ hlength
    · rw [Text.lastLine_append_newline text [c] hsign, List.length_singleton]
  · rename_i hroom
    have hwritten : text ++ written [String.singleton c] = text ++ [c] := by
      simp only [written, List.flatMap_cons, List.flatMap_nil, String.toList_singleton,
        List.append_nil]
    rw [hwritten]
    refine ⟨rfl, hcount, ?_, fun line hline => ?_, ?_, ?_, fun _ => Nat.succ_pos _⟩
    · rw [List.filter_append, h.shown, hkeep]
    · rw [Text.lines_append_of_not_mem text hsign, List.dropLast_concat] at hline
      exact h.full line hline
    · rw [Text.lastLine_append_of_not_mem text [c] hsign, List.length_append, h.reached,
        List.length_singleton]
    · change p.column + 1 ≤ width
      omega

/-- What one sign keeps, all of them keep. -/
theorem shows_glyphs (h : p.Shows width signs text) (hwidth : 1 ≤ width) {cs : List Char}
    (hcs : '\n' ∉ cs) :
    (p.glyphs (cs.map String.singleton)).2.Shows width (signs ++ cs)
      (text ++ written (p.glyphs (cs.map String.singleton)).1) := by
  induction cs generalizing p signs text with
  | nil =>
      rw [List.map_nil, glyphs, List.append_nil, written, List.flatMap_nil, List.append_nil]
      exact h
  | cons c cs ih =>
      rw [List.mem_cons, not_or] at hcs
      have hnext := ih (shows_glyph h hwidth fun hc => hcs.1 hc.symm) hcs.2
      rw [List.append_assoc, List.append_assoc, List.singleton_append] at hnext
      rw [List.map_cons, glyphs, written, List.flatMap_append]
      exact hnext

namespace Shows

/-- The first line is not empty. -/
theorem not_starts (h : p.Shows width signs text) (hwidth : 1 ≤ width) :
    text.head? ≠ some '\n' := by
  intro hhead
  obtain ⟨rest, rfl⟩ := List.head?_eq_some_iff.mp hhead
  have hempty : [] ∈ (Text.lines ('\n' :: rest)).dropLast := by
    rw [Text.lines_newline, List.dropLast_cons_of_ne_nil (Text.lines_ne_nil rest)]
    exact List.mem_cons_self
  have hlength := h.full [] hempty
  rw [List.length_nil] at hlength
  omega

/-- Neither is the last, once there is anything. -/
theorem not_ends (h : p.Shows width signs text) : text.getLast? ≠ some '\n' := by
  intro hlast
  obtain ⟨front, rfl⟩ := List.getLast?_eq_some_iff.mp hlast
  have hbegun := h.begun (List.append_ne_nil_of_right_ne_nil front (List.cons_ne_nil _ _))
  rw [← h.reached, Text.lastLine_append_singleton, List.length_nil] at hbegun
  exact Nat.lt_irrefl 0 hbegun

end Shows

end Signs

/-- Signs of one character each are characters. -/
theorem exists_signs {notices : List Notice}
    (h : ∀ text, Notice.sign text ∈ notices → ∃ c, c ≠ '\n' ∧ text = String.singleton c) :
    ∃ cs : List Char, notices.map Notice.glyph = cs.map String.singleton ∧ '\n' ∉ cs := by
  induction notices with
  | nil => exact ⟨[], rfl, List.not_mem_nil⟩
  | cons notice notices ih =>
      obtain ⟨cs, hcs, hfree⟩ := ih fun text htext => h text (List.mem_cons_of_mem notice htext)
      have hnotice : ∃ c, c ≠ '\n' ∧ notice.glyph = String.singleton c := by
        cases notice with
        | sign text => exact h text List.mem_cons_self
        | finished r =>
            rw [Notice.glyph]
            cases r.status with
            | passed => exact ⟨'.', by decide, rfl⟩
            | failed => exact ⟨'F', by decide, rfl⟩
            | syntaxError => exact ⟨'E', by decide, rfl⟩
      obtain ⟨c, hc, hglyph⟩ := hnotice
      refine ⟨c :: cs, by rw [List.map_cons, List.map_cons, hcs, hglyph], ?_⟩
      rw [List.mem_cons, not_or]
      exact ⟨hc.symm, hfree⟩

/-- Whatever files finish and whatever signs are asked for, what is written has the signs in
    their order, and line feeds besides. They cut it into lines that are full, up to the last
    one, which is not empty if there is any sign. There is no line feed at the start and none
    at the end, and as many signs are counted as there are. -/
theorem glyphs_by_line (width : Nat) (hwidth : 1 ≤ width) (notices : List Notice)
    (hsigns : ∀ text, Notice.sign text ∈ notices → ∃ c, c ≠ '\n' ∧ text = String.singleton c) :
    ∃ writes p, (start width).glyphs (notices.map Notice.glyph) = (writes, p) ∧
      (written writes).filter (· ≠ '\n') = notices.flatMap (·.glyph.toList) ∧
      (∃ full last, Text.lines (written writes) = full ++ [last] ∧
        (∀ line ∈ full, line.length = width) ∧ last.length ≤ width ∧
        (notices ≠ [] → 1 ≤ last.length)) ∧
      (written writes).head? ≠ some '\n' ∧ (written writes).getLast? ≠ some '\n' ∧
      p.count = notices.length := by
  obtain ⟨cs, hcs, hfree⟩ := exists_signs hsigns
  have hshows := shows_glyphs (shows_start width) hwidth hfree
  rw [List.nil_append, List.nil_append, ← hcs] at hshows
  have hlength : cs.length = notices.length := by
    rw [← List.length_map String.singleton, ← hcs, List.length_map]
  refine ⟨_, _, rfl, ?_, ⟨_, _, Text.lines_eq_append_lastLine _, hshows.full, ?_, fun hsome => ?_⟩,
    hshows.not_starts hwidth, hshows.not_ends, hshows.counted.trans hlength⟩
  · rw [hshows.shown, ← List.flatMap_map, hcs, List.flatMap_map]
    simp only [String.toList_singleton, List.flatMap_singleton']
  · exact hshows.reached ▸ hshows.fits
  · rw [hshows.reached]
    refine hshows.begun fun hnil => hsome (List.eq_nil_of_length_eq_zero ?_)
    rw [← hlength, ← hshows.shown, hnil]
    rfl

/-- A file that the syntax pre-check has rejected, one without findings, and a sign. -/
def threeNotices : List Notice :=
  [.finished ⟨⟨"", ["a.py"]⟩, .rejected "no"⟩, .finished ⟨⟨"", ["b.py"]⟩, .checked 0 []⟩,
    .sign "+"]

theorem glyphs_by_line_three :
    1 ≤ 2 ∧ (∀ text, Notice.sign text ∈ threeNotices → ∃ c, c ≠ '\n' ∧ text = String.singleton c) ∧
      ((start (2 : Nat)).glyphs (threeNotices.map Notice.glyph)).1 = ["E", ".", "\n", "+"] ∧
      ((start (2 : Nat)).glyphs (threeNotices.map Notice.glyph)).2.count = 3 := by
  have hwidth : 1 ≤ 2 := by decide
  have hsigns : ∀ text, Notice.sign text ∈ threeNotices →
      ∃ c, c ≠ '\n' ∧ text = String.singleton c := by
    intro text htext
    simp only [threeNotices, List.mem_cons, List.not_mem_nil, reduceCtorEq, Notice.sign.injEq,
      false_or, or_false] at htext
    exact ⟨'+', by decide, htext⟩
  obtain ⟨writes, p, hrun, _, _, _, _, hcount⟩ := glyphs_by_line 2 hwidth threeNotices hsigns
  refine ⟨hwidth, hsigns, by decide, ?_⟩
  rw [hrun]
  exact hcount

end Progress

end TokenLint
