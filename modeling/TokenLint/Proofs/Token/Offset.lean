import TokenLint.Proofs.Token.Position

/-!
# Coordinates and Offsets

A lexer says where a lexeme is by row and column, a span by its offset in the
source, and a token by the place counted over the text before it. Here the
three are shown to agree. The lines of a text and the offsets at which they
start are computed by two functions that never look at each other;
`exists_of_line` puts them side by side, by induction on the text.

The agreement holds for coordinates inside a line. A column past the end of
its line still has an offset, but that one lies on a later line, and the
place counted there is another.

## Main definitions

* `Coordinates.Inside`: Coordinates that lie in a line of a text.

## Theorems

* `exists_of_line`: A line of a text, with what is before and after it.
* `Coordinates.Inside.past`: The place at the offset of coordinates.
-/

namespace TokenLint

theorem startsAfter_eq_map (cs : List Char) :
    ∀ (place : Nat), startsAfter place cs = (startsAfter 0 cs).map (· + place) := by
  induction cs with
  | nil =>
      intro place
      rfl
  | cons c cs ih =>
      intro place
      have hshift : startsAfter (place + 1) cs = (startsAfter (0 + 1) cs).map (· + place) := by
        rw [ih (place + 1), ih (0 + 1), List.map_map]
        congr 1
        funext n
        simp only [Function.comp_apply]
        omega
      by_cases hc : c = '\n'
      · rw [startsAfter, startsAfter, if_pos hc, if_pos hc, hshift, List.map_cons]
        congr 1
        omega
      · rw [startsAfter, startsAfter, if_neg hc, if_neg hc, hshift]

/-- After its first character the lines of a text start one further on. -/
theorem getElem?_lineStarts_cons (c : Char) (cs : List Char) (hc : c ≠ '\n') (k : Nat) :
    (lineStarts (c :: cs))[k + 1]? = ((lineStarts cs)[k + 1]?).map (· + 1) := by
  simp only [lineStarts, startsAfter, if_neg hc, List.getElem?_cons_succ]
  rw [startsAfter_eq_map, List.getElem?_map]

theorem getElem?_lineStarts_newline (cs : List Char) (k : Nat) :
    (lineStarts ('\n' :: cs))[k + 1]? = ((lineStarts cs)[k]?).map (· + 1) := by
  simp only [lineStarts, startsAfter, if_true, List.getElem?_cons_succ]
  rw [startsAfter_eq_map]
  cases k with
  | zero => rfl
  | succ k => simp only [List.getElem?_cons_succ, List.getElem?_map]

namespace Text

/-- A line of a text, with what is before and after it: the line starts where
    the table of line starts says, as many line feeds are before it as its
    number says, and the last of them is directly before it. -/
theorem exists_of_line (cs : List Char) : ∀ (k : Nat) (line : List Char),
    (lines cs)[k]? = some line → ∃ before rest, cs = before ++ (line ++ rest) ∧
      (lineStarts cs)[k]? = some before.length ∧ breakCount before = k ∧
      lastLine before = [] ∧ '\n' ∉ line := by
  induction cs with
  | nil =>
      intro k line h
      cases k with
      | zero =>
          simp only [lines, splitOn, List.getElem?_cons_zero, Option.some.injEq] at h
          subst h
          exact ⟨[], [], rfl, rfl, rfl, rfl, List.not_mem_nil⟩
      | succ k => simp only [lines, splitOn, List.getElem?_cons_succ, List.getElem?_nil,
          reduceCtorEq] at h
  | cons c cs ih =>
      intro k line h
      by_cases hc : c = '\n'
      · -- An empty line is in front, and every other line has the number after its own.
        subst hc
        rw [lines_newline] at h
        cases k with
        | zero =>
            simp only [List.getElem?_cons_zero, Option.some.injEq] at h
            subst h
            exact ⟨[], '\n' :: cs, rfl, rfl, rfl, rfl, List.not_mem_nil⟩
        | succ k =>
            rw [List.getElem?_cons_succ] at h
            rcases ih k line h with ⟨before, rest, hcs, hstart, hcount, hlast, hline⟩
            refine ⟨'\n' :: before, rest, by rw [hcs, List.cons_append], ?_, ?_, ?_, hline⟩
            · rw [getElem?_lineStarts_newline, hstart, Option.map_some, List.length_cons]
            · rw [breakCount, List.count_cons_self, ← breakCount, hcount]
            · rw [lastLine_cons_newline, hlast]
      · -- The first line has a character more, and all lines have the number they had.
        rcases exists_lines_cons c cs hc with ⟨first, others, hcs, hccs⟩
        rw [hccs] at h
        cases k with
        | zero =>
            simp only [List.getElem?_cons_zero, Option.some.injEq] at h
            subst h
            -- The first line starts at the start, so nothing is before it.
            rcases ih 0 first (by rw [hcs]; rfl) with ⟨before, rest, hsplit, hstart, _, _, hline⟩
            have hnil : before = [] := by
              simp only [lineStarts, List.getElem?_cons_zero, Option.some.injEq] at hstart
              exact List.eq_nil_of_length_eq_zero hstart.symm
            subst hnil
            refine ⟨[], rest, by rw [hsplit]; rfl, rfl, rfl, rfl, ?_⟩
            rw [List.mem_cons, not_or]
            exact ⟨fun hcc => hc hcc.symm, hline⟩
        | succ k =>
            rw [List.getElem?_cons_succ] at h
            rcases ih (k + 1) line (by rw [hcs, List.getElem?_cons_succ]; exact h) with
              ⟨before, rest, hsplit, hstart, hcount, hlast, hline⟩
            have hmem : '\n' ∈ before := by
              rw [breakCount] at hcount
              exact List.count_pos_iff.mp (by omega)
            refine ⟨c :: before, rest, by rw [hsplit, List.cons_append], ?_, ?_, ?_, hline⟩
            · rw [getElem?_lineStarts_cons c cs hc, hstart, Option.map_some, List.length_cons]
            · rw [breakCount, List.count_cons_of_ne hc, ← breakCount, hcount]
            · rw [← List.singleton_append, lastLine_append_of_mem _ _ hmem, hlast]

end Text

namespace Coordinates

/-- Coordinates that lie in a line of a text, or directly behind it. -/
def Inside (source : List Char) (c : Coordinates) : Prop :=
  0 < c.row ∧ ∃ line, (Text.lines source)[c.row - 1]? = some line ∧ c.column ≤ line.length

/-- The offset of coordinates inside a line is not clamped, and the place that
    is counted over the text before it has their row and column. -/
theorem Inside.past {source : List Char} {c : Coordinates} (h : c.Inside source) :
    Place.past (source.take (offsetOf (lineStarts source) source.length c)) =
      ⟨c.row, c.column + 1⟩ := by
  rcases h with ⟨hrow, line, hline, hcolumn⟩
  rcases Text.exists_of_line source _ line hline with
    ⟨before, rest, hsplit, hstart, hcount, hlast, hbreak⟩
  have hlen : source.length = before.length + (line.length + rest.length) := by
    rw [hsplit, List.length_append, List.length_append]
  have hoffset : offsetOf (lineStarts source) source.length c = before.length + c.column := by
    simp only [offsetOf, hstart]
    omega
  -- Up to the column there is only a part of the line behind what is before it.
  have htake : source.take (before.length + c.column) = before ++ line.take c.column := by
    rw [hsplit, List.take_length_add_append, List.take_append_of_le_length hcolumn]
  have hpart : '\n' ∉ line.take c.column := fun hc => hbreak (List.mem_of_mem_take hc)
  rw [hoffset, htake]
  simp only [Place.past, Text.breakCount_append, Text.breakCount_of_not_mem _ hpart,
    Text.lastLine_append_of_not_mem before _ hpart, hcount, hlast, List.nil_append,
    List.length_take, Place.mk.injEq]
  omega

end Coordinates

end TokenLint
