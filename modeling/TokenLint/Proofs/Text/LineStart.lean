import TokenLint.Proofs.Text.PhysicalLine
import TokenLint.Proofs.Token.Offset
import TokenLint.Proofs.Token.Tiling

/-!
# Lines by Where They Start

A lexer and a token know offsets, and whoever reads a text line by line knows
numbers and contents. `placedLines` is for both: each line of a text with the
offset at which it starts. The table of line starts and the list of lines are
computed apart from each other, and `placedLines_eq` says that the offset alone
determines the line.

So a line can be spoken of by its offset. These offsets are the start of the
text and the places behind its line feeds, and they rise. `startsIn` picks those
of a part of the text, and those of two parts that meet go together.

## Main definitions

* `Text.lineFrom`: What stands on the line that starts at an offset.
* `Text.lineAt`: That line with its number.
* `Text.placedLines`: The lines of a text with where they start.
* `Text.rowOf`: The number of the line that a character is on.
* `Text.indentation`: The blanks that a line begins with.
* `startsIn`: The offsets between two others at which lines start.

## Theorems

* `mem_lineStarts`, `lineStarts_pairwise`: Where lines start.
* `Text.getElem?_lines`: A line is what stands where it starts.
* `Text.placedLines_eq`: The offset of a line determines the line.
* `Text.rowOf_eq_iff`: The characters of a line.
* `Text.lineFrom_eq_append`, `Text.indentation_lineFrom`: A line of which a part
  is known.
* `startsIn_append`: The lines of two parts of a text that meet.
-/

namespace TokenLint

theorem slice_append_drop (source : List Char) {start stop : Nat} (h : start ≤ stop) :
    slice source start stop ++ source.drop stop = source.drop start := by
  have hdrop : source.drop stop = (source.drop start).drop (stop - start) := by
    rw [List.drop_drop, Nat.add_sub_cancel' h]
  rw [slice, hdrop, List.take_append_drop]

/-- A slice has what the source has between two offsets. -/
theorem mem_slice {source : List Char} {start stop : Nat} {c : Char} :
    c ∈ slice source start stop ↔ ∃ i, start ≤ i ∧ i < stop ∧ source[i]? = some c := by
  rw [List.mem_iff_getElem?]
  constructor
  · rintro ⟨i, hi⟩
    rw [slice, List.getElem?_take] at hi
    split at hi
    · rw [List.getElem?_drop] at hi
      exact ⟨start + i, by omega, by omega, hi⟩
    · cases hi
  · rintro ⟨i, hlow, hhigh, hi⟩
    refine ⟨i - start, ?_⟩
    rw [slice, List.getElem?_take, if_pos (by omega), List.getElem?_drop, Nat.add_sub_cancel' hlow,
      hi]

theorem mem_startsAfter (cs : List Char) : ∀ place p : Nat,
    p ∈ startsAfter place cs ↔ ∃ q, cs[q]? = some '\n' ∧ p = place + q + 1 := by
  induction cs with
  | nil =>
      intro place p
      simp only [startsAfter, List.not_mem_nil, List.getElem?_nil, reduceCtorEq, false_and,
        exists_false]
  | cons c cs ih =>
      intro place p
      have hrest : p ∈ startsAfter (place + 1) cs ↔
          ∃ q, (c :: cs)[q + 1]? = some '\n' ∧ p = place + (q + 1) + 1 := by
        rw [ih]
        simp only [List.getElem?_cons_succ, Nat.add_assoc, Nat.add_comm 1]
      rw [startsAfter, ← Nat.or_exists_add_one, ← hrest, List.getElem?_cons_zero,
        Option.some.injEq]
      split
      · rename_i hc
        rw [List.mem_cons]
        simp only [hc, true_and, Nat.add_zero]
      · rename_i hc
        simp only [hc, false_and, false_or]

/-- A line starts at the start of a text and behind each line feed. -/
theorem mem_lineStarts {cs : List Char} {p : Nat} :
    p ∈ lineStarts cs ↔ p = 0 ∨ ∃ q, cs[q]? = some '\n' ∧ p = q + 1 := by
  rw [lineStarts, List.mem_cons, mem_startsAfter]
  simp only [Nat.zero_add]

theorem le_length_of_mem_lineStarts {cs : List Char} {p : Nat} (h : p ∈ lineStarts cs) :
    p ≤ cs.length := by
  rcases mem_lineStarts.mp h with rfl | ⟨q, hq, rfl⟩
  · exact Nat.zero_le _
  · exact (List.getElem?_eq_some_iff.mp hq).1

theorem startsAfter_pairwise (cs : List Char) : ∀ place : Nat,
    (place :: startsAfter place cs).Pairwise (· < ·) := by
  induction cs with
  | nil =>
      intro place
      exact List.pairwise_singleton _ place
  | cons c cs ih =>
      intro place
      refine List.pairwise_cons.mpr ⟨fun p hp => ?_, ?_⟩
      · rcases (mem_startsAfter _ place p).mp hp with ⟨q, _, rfl⟩
        omega
      · rw [startsAfter]
        split
        · exact ih (place + 1)
        · exact (ih (place + 1)).tail

theorem lineStarts_pairwise (cs : List Char) : (lineStarts cs).Pairwise (· < ·) :=
  startsAfter_pairwise cs 0

/-- A line starts where nothing is in front of it on its line. -/
theorem mem_lineStarts_iff {cs : List Char} {p : Nat} (h : p ≤ cs.length) :
    p ∈ lineStarts cs ↔ Text.lastLine (cs.take p) = [] := by
  rw [mem_lineStarts]
  cases p with
  | zero => exact ⟨fun _ => rfl, fun _ => .inl rfl⟩
  | succ q =>
      rw [List.take_add_one, List.getElem?_eq_getElem h, Option.toList_some]
      constructor
      · rintro (h0 | ⟨q', hfeed, heq⟩)
        · exact absurd h0 (Nat.succ_ne_zero q)
        · cases heq
          rw [List.getElem?_eq_getElem h, Option.some.injEq] at hfeed
          rw [hfeed, Text.lastLine_append_singleton]
      · intro hlast
        by_cases hfeed : cs[q] = '\n'
        · exact .inr ⟨q, by rw [List.getElem?_eq_getElem h, hfeed], rfl⟩
        · rw [Text.lastLine_append_of_not_mem _ _ fun hmem => hfeed (List.mem_singleton.mp hmem).symm]
            at hlast
          exact absurd hlast (List.append_ne_nil_of_right_ne_nil _ (List.cons_ne_nil _ _))

/-- In front of each offset there is the start of its line. -/
theorem exists_lineStart_le (cs : List Char) (stop : Nat) :
    ∃ p ∈ lineStarts cs, p ≤ stop ∧ '\n' ∉ slice cs p stop := by
  induction stop with
  | zero => exact ⟨0, List.mem_cons_self, Nat.le_refl 0, by rw [slice_self]; exact List.not_mem_nil⟩
  | succ stop ih =>
      by_cases hfeed : cs[stop]? = some '\n'
      · refine ⟨stop + 1, mem_lineStarts.mpr (.inr ⟨stop, hfeed, rfl⟩), Nat.le_refl _, ?_⟩
        rw [slice_self]
        exact List.not_mem_nil
      · rcases ih with ⟨p, hp, hle, hnone⟩
        refine ⟨p, hp, Nat.le_succ_of_le hle, fun hmem => ?_⟩
        rcases mem_slice.mp hmem with ⟨i, hlow, hhigh, hi⟩
        by_cases hlast : i = stop
        · exact hfeed (hlast ▸ hi)
        · exact hnone (mem_slice.mpr ⟨i, hlow, by omega, hi⟩)

/-- Between an offset and a later line start there is a line feed. -/
theorem newline_mem_slice {cs : List Char} {start p stop : Nat} (hp : p ∈ lineStarts cs)
    (hlow : start < p) (hhigh : p ≤ stop) : '\n' ∈ slice cs start stop := by
  rcases mem_lineStarts.mp hp with rfl | ⟨q, hfeed, rfl⟩
  · exact absurd hlow (Nat.not_lt_zero start)
  · exact mem_slice.mpr ⟨q, by omega, by omega, hfeed⟩

/-- The offsets from one up to another at which lines of a text start. -/
def startsIn (source : List Char) (start stop : Nat) : List Nat :=
  (lineStarts source).filter fun p => start ≤ p ∧ p < stop

theorem mem_startsIn {source : List Char} {start stop p : Nat} :
    p ∈ startsIn source start stop ↔ p ∈ lineStarts source ∧ start ≤ p ∧ p < stop := by
  rw [startsIn, List.mem_filter, decide_eq_true_eq]

theorem filter_append_filter {places : List Nat} (h : places.Pairwise (· < ·))
    {start middle stop : Nat} (h1 : start ≤ middle) (h2 : middle ≤ stop) :
    (places.filter fun p => start ≤ p ∧ p < middle) ++
        (places.filter fun p => middle ≤ p ∧ p < stop) =
      places.filter fun p => start ≤ p ∧ p < stop := by
  induction places with
  | nil => rfl
  | cons p places ih =>
      rcases List.pairwise_cons.mp h with ⟨hfirst, hrest⟩
      have hmore := ih hrest
      by_cases hp : p < middle
      · -- The first is in the first part, or in neither.
        have hnot : ¬ (middle ≤ p ∧ p < stop) := by omega
        have hiff : (start ≤ p ∧ p < middle) = (start ≤ p ∧ p < stop) := by
          rw [eq_iff_iff]
          omega
        simp only [List.filter_cons, hnot, hiff, decide_false, Bool.false_eq_true, if_false]
        split
        · rw [List.cons_append, hmore]
        · exact hmore
      · -- Then nothing is left for the first part.
        have hnone : ((p :: places).filter fun q => start ≤ q ∧ q < middle) = [] := by
          rw [List.filter_eq_nil_iff]
          intro q hq
          rw [decide_eq_true_eq]
          rcases List.mem_cons.mp hq with rfl | hq
          · omega
          · have hlt := hfirst q hq
            omega
        rw [hnone, List.nil_append]
        refine List.filter_congr fun q hq => ?_
        rw [decide_eq_decide]
        rcases List.mem_cons.mp hq with rfl | hq
        · omega
        · have hlt := hfirst q hq
          omega

/-- The lines of two parts of a text that meet. -/
theorem startsIn_append (source : List Char) {start middle stop : Nat} (h1 : start ≤ middle)
    (h2 : middle ≤ stop) :
    startsIn source start middle ++ startsIn source middle stop = startsIn source start stop :=
  filter_append_filter (lineStarts_pairwise source) h1 h2

theorem startsIn_all (source : List Char) :
    startsIn source 0 (source.length + 1) = lineStarts source := by
  rw [startsIn, List.filter_eq_self]
  intro p hp
  have hle := le_length_of_mem_lineStarts hp
  rw [decide_eq_true_eq]
  omega

namespace Text

/-- What stands on the line that starts at an offset. -/
def lineFrom (cs : List Char) (start : Nat) : List Char :=
  (cs.drop start).takeWhile (· != '\n')

/-- The blanks that a line begins with. -/
def indentation (line : List Char) : List Char := line.takeWhile isBlank

/-- The line that starts at an offset. -/
def lineAt (cs : List Char) (start : Nat) : PhysicalLine :=
  ⟨openLine (cs.take start), lineFrom cs start, start + (lineFrom cs start).length < cs.length⟩

/-- The lines of a text with the offsets at which they start. -/
def placedLines (cs : List Char) : List (Nat × PhysicalLine) :=
  (lineStarts cs).zip (physicalLines cs)

theorem newline_not_mem_lineFrom (cs : List Char) (start : Nat) : '\n' ∉ lineFrom cs start := by
  intro hmem
  have hall := List.all_eq_true.mp List.all_takeWhile _ hmem
  simp only [bne_self_eq_false, Bool.false_eq_true] at hall

/-- A line is what stands where it starts. -/
theorem getElem?_lines (cs : List Char) : ∀ k : Nat,
    (lines cs)[k]? = ((lineStarts cs)[k]?).map (lineFrom cs) := by
  induction cs with
  | nil =>
      intro k
      cases k with
      | zero => rfl
      | succ k => rfl
  | cons c cs ih =>
      intro k
      by_cases hc : c = '\n'
      · subst hc
        rw [lines_newline]
        cases k with
        | zero => rfl
        | succ k =>
            rw [List.getElem?_cons_succ, ih k, getElem?_lineStarts_newline, Option.map_map]
            rfl
      · rcases exists_lines_cons c cs hc with ⟨line, rest, hcs, hccs⟩
        rw [hcs] at ih
        rw [hccs]
        cases k with
        | zero =>
            -- The first line of what follows is the rest of this one.
            have hfirst : some line = some (lineFrom cs 0) := ih 0
            have hc' : (c != '\n') = true := bne_iff_ne.mpr hc
            rw [Option.some.inj hfirst, lineStarts, List.getElem?_cons_zero, List.getElem?_cons_zero,
              Option.map_some, lineFrom, lineFrom, List.drop_zero, List.drop_zero,
              List.takeWhile_cons, if_pos hc']
        | succ k =>
            have hrest := ih (k + 1)
            rw [List.getElem?_cons_succ] at hrest
            rw [List.getElem?_cons_succ, hrest, getElem?_lineStarts_cons c cs hc, Option.map_map]
            rfl

theorem getElem?_numberFrom (ls : List (List Char)) : ∀ (n : Int) (k : Nat),
    (numberFrom n ls)[k]? = ls[k]?.map fun content => ⟨n + k, content, k + 1 < ls.length⟩ := by
  induction ls with
  | nil =>
      intro n k
      rfl
  | cons content rest ih =>
      intro n k
      by_cases hrest : rest = []
      · subst hrest
        cases k with
        | zero => exact congrArg (fun m => some (PhysicalLine.mk m content false)) (Int.add_zero n).symm
        | succ k => rfl
      · rw [numberFrom_cons n content hrest]
        cases k with
        | zero =>
            have hmore : 0 + 1 < (content :: rest).length :=
              Nat.succ_lt_succ (List.length_pos_iff.mpr hrest)
            rw [List.getElem?_cons_zero, List.getElem?_cons_zero, Option.map_some,
              decide_eq_true hmore]
            exact congrArg (fun m => some (PhysicalLine.mk m content true)) (Int.add_zero n).symm
        | succ k =>
            have hnumber : n + 1 + (k : Int) = n + ((k + 1 : Nat) : Int) := by omega
            rw [List.getElem?_cons_succ, List.getElem?_cons_succ, ih, hnumber]
            simp only [List.length_cons, Nat.add_lt_add_iff_right]

/-- Behind a line there is a line feed, or the text ends. -/
theorem exists_drop_eq (cs : List Char) (start : Nat) :
    ∃ rest, cs.drop start = lineFrom cs start ++ rest ∧ (rest = [] ∨ ∃ more, rest = '\n' :: more) := by
  refine ⟨(cs.drop start).dropWhile (· != '\n'), List.takeWhile_append_dropWhile.symm, ?_⟩
  cases hrest : (cs.drop start).dropWhile (· != '\n') with
  | nil => exact .inl rfl
  | cons c more =>
      have hhead := List.head?_dropWhile_not (· != '\n') (cs.drop start)
      rw [hrest] at hhead
      exact .inr ⟨more, by rw [bne_eq_false_iff_eq.mp hhead]⟩

theorem getElem?_lineFrom {cs : List Char} {start i : Nat} (h : i < (lineFrom cs start).length) :
    (lineFrom cs start)[i]? = cs[start + i]? := by
  rcases exists_drop_eq cs start with ⟨rest, hdrop, _⟩
  rw [← List.getElem?_drop, hdrop, List.getElem?_append_left h]

/-- A line has what the text has between its start and its end. -/
theorem mem_lineFrom {cs : List Char} {start : Nat} {c : Char} :
    c ∈ lineFrom cs start ↔
      ∃ i, start ≤ i ∧ i < start + (lineFrom cs start).length ∧ cs[i]? = some c := by
  rw [List.mem_iff_getElem?]
  constructor
  · rintro ⟨k, hk⟩
    have hlt := (List.getElem?_eq_some_iff.mp hk).1
    rw [getElem?_lineFrom hlt] at hk
    exact ⟨start + k, by omega, by omega, hk⟩
  · rintro ⟨i, hlow, hhigh, hi⟩
    refine ⟨i - start, ?_⟩
    rw [getElem?_lineFrom (by omega), Nat.add_sub_cancel' hlow, hi]

/-- A line feed from the start of a line on is not on that line. -/
theorem length_lineFrom_le {cs : List Char} {start i : Nat} (hlow : start ≤ i)
    (hfeed : cs[i]? = some '\n') : start + (lineFrom cs start).length ≤ i := by
  rw [← Nat.not_lt]
  exact fun hlt => newline_not_mem_lineFrom cs start (mem_lineFrom.mpr ⟨i, hlow, hlt, hfeed⟩)

/-- The line feed that ends a line is directly behind it. -/
theorem getElem?_lineFrom_length {cs : List Char} {start : Nat} (hstart : start ≤ cs.length)
    (h : start + (lineFrom cs start).length < cs.length) :
    cs[start + (lineFrom cs start).length]? = some '\n' := by
  rcases exists_drop_eq cs start with ⟨rest, hdrop, hrest⟩
  have hlength := congrArg List.length hdrop
  rw [List.length_drop, List.length_append] at hlength
  rcases hrest with rfl | ⟨more, rfl⟩
  · rw [List.length_nil] at hlength
    omega
  · rw [← List.getElem?_drop, hdrop, List.getElem?_append_right (Nat.le_refl _), Nat.sub_self,
      List.getElem?_cons_zero]

/-- The number, counted from zero, of the line that a character is on. -/
def rowOf (cs : List Char) (i : Nat) : Nat := breakCount (cs.take i)

/-- As many line feeds are in front of a line as its number says. -/
theorem rowOf_of_getElem? {cs : List Char} {k p : Nat} (h : (lineStarts cs)[k]? = some p) :
    rowOf cs p = k := by
  have hline : (lines cs)[k]? = some (lineFrom cs p) := by rw [getElem?_lines, h, Option.map_some]
  rcases exists_of_line cs k _ hline with ⟨before, rest, hcs, hstart, hcount, _, _⟩
  rw [h, Option.some.injEq] at hstart
  rw [hstart, hcs, rowOf, List.take_left, hcount]

/-- A line is ended if it is not the last one. -/
theorem ended_iff {cs : List Char} {k p : Nat} (h : (lineStarts cs)[k]? = some p) :
    k + 1 < (lines cs).length ↔ p + (lineFrom cs p).length < cs.length := by
  have hle := le_length_of_mem_lineStarts (List.mem_of_getElem? h)
  rcases exists_drop_eq cs p with ⟨rest, hdrop, hrest⟩
  have hlength := congrArg List.length hdrop
  have hcount := breakCount_append (cs.take p) (cs.drop p)
  rw [List.length_drop, List.length_append] at hlength
  rw [List.take_append_drop, ← rowOf, rowOf_of_getElem? h, hdrop, breakCount_append,
    breakCount_of_not_mem _ (newline_not_mem_lineFrom cs p)] at hcount
  rw [length_lines, hcount]
  rcases hrest with rfl | ⟨more, rfl⟩
  · rw [List.length_nil] at hlength
    have hnone : breakCount [] = 0 := rfl
    omega
  · have hsome : 0 < breakCount ('\n' :: more) := breakCount_pos _ List.mem_cons_self
    rw [List.length_cons] at hlength
    omega

theorem physicalLines_eq_map (cs : List Char) :
    physicalLines cs = (lineStarts cs).map (lineAt cs) := by
  refine List.ext_getElem? fun k => ?_
  rw [physicalLines, getElem?_numberFrom, getElem?_lines, List.getElem?_map, Option.map_map]
  cases hp : (lineStarts cs)[k]? with
  | none => rfl
  | some p =>
      rw [Option.map_some, Option.map_some, Function.comp_apply, lineAt, openLine, ← rowOf,
        rowOf_of_getElem? hp, decide_eq_decide.mpr (ended_iff hp)]

/-- The offset of a line determines the line. -/
theorem placedLines_eq (cs : List Char) :
    placedLines cs = (lineStarts cs).map fun p => (p, lineAt cs p) := by
  have hzip : ((lineStarts cs).map id).zip ((lineStarts cs).map (lineAt cs)) = _ := List.zip_map'
  rw [List.map_id] at hzip
  rw [placedLines, physicalLines_eq_map, hzip]
  rfl

section Rows

variable {cs : List Char} {i j : Nat}

theorem rowOf_add (h : i ≤ j) : rowOf cs i + breakCount (slice cs i j) = rowOf cs j := by
  rw [rowOf, rowOf, ← breakCount_append, take_append_slice cs h]

theorem rowOf_mono (h : i ≤ j) : rowOf cs i ≤ rowOf cs j := by
  rw [← rowOf_add h]
  exact Nat.le_add_right _ _

theorem rowOf_length : rowOf cs cs.length = breakCount cs := by
  rw [rowOf, List.take_length]

theorem rowOf_le (cs : List Char) (i : Nat) : rowOf cs i ≤ breakCount cs :=
  (List.take_sublist i cs).count_le '\n'

/-- Characters without a line feed between them are on one line. -/
theorem rowOf_eq (h : i ≤ j) (hfeed : '\n' ∉ slice cs i j) : rowOf cs j = rowOf cs i := by
  rw [← rowOf_add h, breakCount_of_not_mem _ hfeed, Nat.add_zero]

/-- A line feed is the last character of its line. -/
theorem rowOf_lt (hfeed : '\n' ∈ slice cs i j) : rowOf cs i < rowOf cs j := by
  have hle : i ≤ j := by
    rcases mem_slice.mp hfeed with ⟨k, hlow, hhigh, _⟩
    omega
  have hpos := breakCount_pos _ hfeed
  rw [← rowOf_add hle]
  omega

theorem rowOf_lt_of_mem (hj : j ∈ lineStarts cs) (h : i < j) : rowOf cs i < rowOf cs j :=
  rowOf_lt (newline_mem_slice hj h (Nat.le_refl j))

/-- A character is on the line of its neighbour or on the next one. -/
theorem rowOf_succ_le (cs : List Char) (i : Nat) : rowOf cs (i + 1) ≤ rowOf cs i + 1 := by
  have hlength : (slice cs i (i + 1)).length ≤ 1 := by
    rw [slice, List.length_take]
    omega
  have hcount : breakCount (slice cs i (i + 1)) ≤ _ := List.count_le_length
  have hadd : rowOf cs i + breakCount (slice cs i (i + 1)) = rowOf cs (i + 1) :=
    rowOf_add (Nat.le_succ i)
  omega

/-- The characters of a line are those from its start to its line feed. -/
theorem rowOf_eq_iff {p : Nat} (hp : p ∈ lineStarts cs) (hi : i < cs.length) :
    rowOf cs i = rowOf cs p ↔ p ≤ i ∧ i ≤ p + (lineFrom cs p).length := by
  constructor
  · intro hrow
    by_cases hbefore : i < p
    · have hlt := rowOf_lt_of_mem hp hbefore
      omega
    · refine ⟨by omega, ?_⟩
      rw [← Nat.not_lt]
      intro hbehind
      have hfeed := getElem?_lineFrom_length (le_length_of_mem_lineStarts hp) (by omega)
      have hlt := rowOf_lt (mem_slice.mpr ⟨_, Nat.le_add_right p _, hbehind, hfeed⟩)
      omega
  · rintro ⟨hlow, hhigh⟩
    refine rowOf_eq hlow fun hmem => ?_
    rcases mem_slice.mp hmem with ⟨k, hk, hk', hfeed⟩
    have hle := length_lineFrom_le hk hfeed
    omega

/-- There is one line more than there are line feeds. -/
theorem exists_start_of_row {k : Nat} (h : k ≤ breakCount cs) :
    ∃ p, (lineStarts cs)[k]? = some p := by
  have hline := getElem?_lines cs k
  rw [List.getElem?_eq_getElem (by rw [length_lines]; omega)] at hline
  rcases Option.map_eq_some_iff.mp hline.symm with ⟨p, hp, _⟩
  exact ⟨p, hp⟩

/-- Each line but the last has a line feed. -/
theorem exists_feed_of_row {k : Nat} (h : k < breakCount cs) :
    ∃ i, cs[i]? = some '\n' ∧ rowOf cs i = k := by
  rcases exists_start_of_row h with ⟨p, hp⟩
  have hrow := rowOf_of_getElem? hp
  rcases mem_lineStarts.mp (List.mem_of_getElem? hp) with rfl | ⟨i, hfeed, rfl⟩
  · exact absurd hrow (Nat.succ_ne_zero k).symm
  · have hnext := rowOf_succ_le cs i
    have hlt' := rowOf_lt_of_mem (List.mem_of_getElem? hp) (Nat.lt_succ_self i)
    exact ⟨i, hfeed, by omega⟩

end Rows

/-- A text that has no line feed from the start of a line on is a part of that line. -/
theorem lineFrom_eq_append {cs : List Char} {start stop : Nat} (hle : start ≤ stop)
    (h : '\n' ∉ slice cs start stop) :
    lineFrom cs start = slice cs start stop ++ lineFrom cs stop := by
  rw [lineFrom, ← slice_append_drop cs hle, List.takeWhile_append_of_pos, lineFrom]
  intro c hc
  rw [bne_iff_ne]
  rintro rfl
  exact h hc

/-- The blanks from the start of a line on, up to something that is none. -/
theorem indentation_lineFrom {cs : List Char} {start stop : Nat} (hle : start ≤ stop)
    (h : '\n' ∉ slice cs start stop) (hblank : ∀ c ∈ slice cs start stop, isBlank c = true)
    (hstop : ∀ c, cs[stop]? = some c → c = '\n' ∨ isBlank c = false) :
    indentation (lineFrom cs start) = slice cs start stop := by
  have hrest : (lineFrom cs stop).takeWhile isBlank = [] := by
    rw [lineFrom]
    cases hdrop : cs.drop stop with
    | nil => rfl
    | cons c more =>
        have hc : cs[stop]? = some c := by
          rw [← Nat.add_zero stop, ← List.getElem?_drop, hdrop, List.getElem?_cons_zero]
        rcases hstop c hc with rfl | hfull
        · rfl
        · rw [List.takeWhile_cons]
          split
          · rw [List.takeWhile_cons, hfull]
            rfl
          · rfl
  rw [indentation, lineFrom_eq_append hle h, List.takeWhile_append_of_pos hblank, hrest,
    List.append_nil]

end Text

end TokenLint
