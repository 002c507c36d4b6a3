import TokenLint.Proofs.Rule.Anchor
import TokenLint.Proofs.Token.Layout

/-!
# Runs of Blank Lines

The rule against long runs of blank lines counts the line feeds in a token and
knows of the lines around the token no more than whether it starts one of them.
This is enough, because a token of white space cannot be made any longer. Where
it starts in the middle of a line, that line has something else on it. Where it
ends, the line that it ends on has something else on it too, or the source ends.
So the lines that lie in the token as a whole are a run that no other line goes
on with, and each such run is found in this way.

`IsWhiteRow` says of a line, without looking at tokens, that all its characters
are white, and the runs are those of `IsWhiteRow`. `Counts` says the same of the
line as somebody sees it. A blank line is not white as a whole if it is part of
a line join, or if its line feed is the end of a statement, as it is directly
behind a line join. The rule does not count those lines, and a run ends there.

## Main definitions

* `IsRun`: A run of numbers of a sort that cannot be made any longer.
* `IsWhiteRow`: A line that is white space from its start to its line feed.
* `Lexeme.StaysOnLine`: A lexeme of which a blank line has no part.
* `BlankLines.Counts`, `BlankLines.CountsRow`: Blank lines that the rule counts.
* `BlankLines.ofRun`: What the rule is about.

## Theorems

* `IsRun.unique`: Runs that share a number are one.
* `BlankLines.countsRow_iff`: A line counts if it is white.
* `BlankLines.isRun_of_span`: The lines in a token of white space.
* `BlankLines.finding?_of_span`: What is reported of such a token.
* `blankLines_by_run`: The rule run by run.
* `blankLines_misses_joined`: Blank lines behind a line join.
-/

namespace TokenLint

/-- Numbers of a sort in a row, as many as there are, from the first one on. -/
structure IsRun (sort : Nat → Prop) (first count : Nat) : Prop where
  inside : ∀ k, first ≤ k → k < first + count → sort k
  before : first = 0 ∨ ¬ sort (first - 1)
  behind : ¬ sort (first + count)

instance (sort : Nat → Prop) [DecidablePred sort] (first count : Nat) :
    Decidable (IsRun sort first count) :=
  decidable_of_iff ((∀ k < first + count, first ≤ k → sort k) ∧
      (first = 0 ∨ ¬ sort (first - 1)) ∧ ¬ sort (first + count))
    ⟨fun h => ⟨fun k hlow hhigh => h.1 k hhigh hlow, h.2.1, h.2.2⟩,
      fun h => ⟨fun k hhigh hlow => h.inside k hlow hhigh, h.before, h.behind⟩⟩

namespace IsRun

variable {sort : Nat → Prop} {first count first' count' k : Nat}

/-- A run does not start later than another one that it shares a number with. -/
theorem first_le (h : IsRun sort first count) (h' : IsRun sort first' count') (hk : first ≤ k)
    (hcount' : k < first' + count') : first ≤ first' := by
  by_contra hlater
  have hinside := h'.inside (first - 1) (by omega) (by omega)
  exact h.before.elim (by omega) fun hnot => hnot hinside

/-- It does not stop earlier either. -/
theorem stop_le (h : IsRun sort first count) (h' : IsRun sort first' count')
    (hcount : k < first + count) (hk' : first' ≤ k) : first' + count' ≤ first + count := by
  by_contra hearlier
  exact h.behind (h'.inside (first + count) (by omega) (by omega))

/-- Runs that share a number are one. -/
theorem unique (h : IsRun sort first count) (h' : IsRun sort first' count') (hk : first ≤ k)
    (hcount : k < first + count) (hk' : first' ≤ k) (hcount' : k < first' + count') :
    first = first' ∧ count = count' := by
  have hfirst := h.first_le h' hk hcount'
  have hfirst' := h'.first_le h hk' hcount
  have hstop := h.stop_le h' hcount hk'
  have hstop' := h'.stop_le h hcount' hk
  omega

end IsRun

section Definitions

variable (source : List Char) (lexemes : List Lexeme)

/-- A line, by its number counted from zero, that is white space from its start to the line
    feed that ends it. -/
def IsWhiteRow (k : Nat) : Prop :=
  k < Text.breakCount source ∧
    ∀ i < source.length, Text.rowOf source i = k → IsWhite source lexemes i

/-- A lexeme of which a blank line has no part: indentation is in front of something else
    on its line, and anything but the ending of a line has no line feed in it. -/
structure Lexeme.StaysOnLine (l : Lexeme) : Prop where
  indent : l.kind = .indent →
    ∃ c ∈ Text.lineFrom source (l.first source), Text.isBlank c = false
  other : l.isTerminator = false → l.kind ≠ .indent →
    '\n' ∉ slice source (l.first source) (l.last source)

instance (l : Lexeme) : Decidable (l.StaysOnLine source) :=
  decidable_of_iff ((l.kind = .indent →
        ∃ c ∈ Text.lineFrom source (l.first source), Text.isBlank c = false) ∧
      (l.isTerminator = false → l.kind ≠ .indent →
        '\n' ∉ slice source (l.first source) (l.last source)))
    ⟨fun h => ⟨h.1, h.2⟩, fun h => ⟨h.indent, h.other⟩⟩

namespace BlankLines

/-- A blank line that the rule counts, by the offset at which it starts: a line feed ends
    it, no part of it is in a line join, and its line feed does not end a statement. -/
structure Counts (start : Nat) (line : Text.PhysicalLine) : Prop where
  ended : line.isEnded = true
  blank : ∀ c ∈ line.content, Text.isBlank c = true
  unjoined : ∀ i ≤ start + line.content.length, start ≤ i → ¬ IsJoined source lexemes i
  idle : ∀ l ∈ lexemes, l.kind = .newline → ¬ l.Covers source (start + line.content.length)

instance (start : Nat) (line : Text.PhysicalLine) : Decidable (Counts source lexemes start line) :=
  decidable_of_iff (line.isEnded = true ∧ (∀ c ∈ line.content, Text.isBlank c = true) ∧
      (∀ i ≤ start + line.content.length, start ≤ i → ¬ IsJoined source lexemes i) ∧
      ∀ l ∈ lexemes, l.kind = .newline → ¬ l.Covers source (start + line.content.length))
    ⟨fun h => ⟨h.1, h.2.1, h.2.2.1, h.2.2.2⟩, fun h => ⟨h.ended, h.blank, h.unjoined, h.idle⟩⟩

/-- The same of a line by its number, counted from zero. -/
def CountsRow (k : Nat) : Prop :=
  ∃ placed ∈ (Text.placedLines source)[k]?, Counts source lexemes placed.1 placed.2

instance (k : Nat) : Decidable (CountsRow source lexemes k) :=
  inferInstanceAs (Decidable (∃ placed ∈ (Text.placedLines source)[k]?, _))

end BlankLines

end Definitions

namespace BlankLines

/-- What stands against a run of blank lines of which the first has a number, counted from
    zero. The place is the start of the first line that is too many. -/
def ofRun (severity : Severity) (limit : Int) (first count : Nat) : Finding :=
  ⟨severity, first + 1 + limit, 1, s!"Too many blank lines ({(count : Int)} > {limit})"⟩

/-- The first line that lies as a whole behind an offset. -/
def firstRow (source : List Char) (start : Nat) : Nat :=
  if start ∈ lineStarts source then Text.rowOf source start else Text.rowOf source start + 1

section Rows

variable {source : List Char} {lexemes : List Lexeme} (hlaid : LaidOut source lexemes)
  (hline : ∀ l ∈ lexemes, l.first source < l.last source → l.StaysOnLine source)

include hlaid hline

/-- What covers a part of a blank line is the ending of a line. -/
theorem isTerminator_of_blank {p i : Nat} (hp : p ∈ lineStarts source)
    (hlow : p ≤ i) (hhigh : i ≤ p + (Text.lineFrom source p).length)
    (hblank : ∀ c ∈ Text.lineFrom source p, Text.isBlank c = true) {l : Lexeme} (hl : l ∈ lexemes)
    (hcovers : l.Covers source i) : l.isTerminator = true := by
  have hlt : l.first source < l.last source := Nat.lt_of_le_of_lt hcovers.1 hcovers.2
  have htidy := hlaid.tidy l hl hlt
  have hstays := hline l hl hlt
  have hle : l.first source ≤ i := hcovers.1
  rw [← Bool.not_eq_false]
  intro hterm
  by_cases hkind : l.kind = .indent
  · have hfeed := hlaid.newline_not_mem_indent hl hlt hkind
    -- The lexeme and the line both start a line, and no line feed is between them.
    have hfirst : l.first source = p := by
      rcases Nat.lt_trichotomy (l.first source) p with hbefore | heq | hbehind
      · exact absurd (newline_mem_slice hp hbefore (Nat.le_trans hlow (Nat.le_of_lt hcovers.2))) hfeed
      · exact heq
      · rcases mem_slice.mp (newline_mem_slice (htidy.indent hkind).1 hbehind (Nat.le_refl _)) with
          ⟨k, hk, hk', hchar⟩
        have hend := Text.length_lineFrom_le hk hchar
        omega
    rcases hstays.indent hkind with ⟨c, hc, hfull⟩
    rw [hfirst] at hc
    rw [hblank c hc] at hfull
    cases hfull
  · rcases (htidy.other hterm hkind).2.2 with ⟨c, hc, hfull⟩
    have hchar : source[l.first source]? = some c := hc
    have hfirst : p ≤ l.first source := by
      by_contra hbefore
      exact hstays.other hterm hkind (newline_mem_slice hp (Nat.lt_of_not_le hbefore)
        (Nat.le_trans hlow (Nat.le_of_lt hcovers.2)))
    -- Its first character is on the line, or is the line feed behind it.
    have hsort : Text.isBlank c = true := by
      by_cases hinside : l.first source < p + (Text.lineFrom source p).length
      · exact hblank c (Text.mem_lineFrom.mpr ⟨_, hfirst, hinside, hchar⟩)
      · have heq : l.first source = p + (Text.lineFrom source p).length := by omega
        have hend := Text.getElem?_lineFrom_length (le_length_of_mem_lineStarts hp)
          (heq ▸ (List.getElem?_eq_some_iff.mp hchar).1)
        rw [← heq, hchar, Option.some.injEq] at hend
        rw [hend]
        decide
    rw [hsort] at hfull
    cases hfull

/-- A line counts if all of it is white. -/
theorem countsRow_iff (k : Nat) : CountsRow source lexemes k ↔ IsWhiteRow source lexemes k := by
  rw [CountsRow, Text.placedLines_eq, List.getElem?_map]
  constructor
  · rintro ⟨placed, hplaced, hcounts⟩
    rcases Option.map_eq_some_iff.mp (Option.mem_def.mp hplaced) with ⟨p, hp, rfl⟩
    have hstart := List.mem_of_getElem? hp
    have hrow := Text.rowOf_of_getElem? hp
    have hended : p + (Text.lineFrom source p).length < source.length :=
      of_decide_eq_true hcounts.ended
    have hcount := (Text.ended_iff hp).mpr hended
    rw [Text.length_lines] at hcount
    refine ⟨by omega, fun i hi hsame => ?_⟩
    rw [← hrow, Text.rowOf_eq_iff hstart hi] at hsame
    by_cases hskipped : IsSkipped source lexemes i
    · exact .inl ⟨hskipped, hcounts.unjoined i hsame.2 hsame.1⟩
    · -- What covers a character here is the ending of this line.
      have hcovered : ∃ l ∈ lexemes, l.Covers source i := by
        by_contra hnone
        exact hskipped fun l hl hcovers => hnone ⟨l, hl, hcovers⟩
      rcases hcovered with ⟨l, hl, hcovers⟩
      have hterm := isTerminator_of_blank hlaid hline hstart hsame.1 hsame.2 hcounts.blank hl hcovers
      have hfeed := (hlaid.eq_first_of_isTerminator hl hterm hcovers).2
      have heq : i = p + (Text.lineFrom source p).length :=
        Nat.le_antisymm hsame.2 (Text.length_lineFrom_le hsame.1 hfeed)
      rcases Lexeme.kind_of_isTerminator hterm with hkind | hkind
      · exact absurd (heq ▸ hcovers) (hcounts.idle l hl hkind)
      · exact .inr ⟨l, hl, hkind, hcovers⟩
  · rintro ⟨hlast, hwhite⟩
    rcases Text.exists_start_of_row (Nat.le_of_lt hlast) with ⟨p, hp⟩
    have hstart := List.mem_of_getElem? hp
    have hended : p + (Text.lineFrom source p).length < source.length := by
      rw [← Text.ended_iff hp, Text.length_lines]
      omega
    have hall : ∀ i, p ≤ i → i ≤ p + (Text.lineFrom source p).length →
        IsWhite source lexemes i := by
      intro i hlow hhigh
      refine hwhite i (by omega) ?_
      rw [(Text.rowOf_eq_iff hstart (by omega)).mpr ⟨hlow, hhigh⟩, Text.rowOf_of_getElem? hp]
    refine ⟨_, Option.mem_def.mpr (congrArg _ hp), decide_eq_true hended, ?_, ?_, ?_⟩
    · intro c hc
      rcases Text.mem_lineFrom.mp hc with ⟨i, hlow, hhigh, hchar⟩
      exact (hall i hlow (Nat.le_of_lt hhigh)).isBlank hlaid hchar
    · exact fun i hhigh hlow => (hall i hlow hhigh).not_isJoined
    · intro l hl hkind hcovers
      have hend := (hall _ (Nat.le_add_right p _) (Nat.le_refl _)).kind_eq hlaid hl hcovers
      rw [hkind] at hend
      cases hend

end Rows

section Spans

variable {path : Path} {source : List Char} {lexemes : List Lexeme} {s : Span} {index : Nat}

/-- The character in front of an offset is on the line before the first that lies behind. -/
theorem rowOf_pred {start : Nat} (h : 0 < start) :
    Text.rowOf source (start - 1) + 1 = firstRow source start := by
  have hsucc : start - 1 + 1 = start := Nat.sub_add_cancel h
  have hnext := Text.rowOf_succ_le source (start - 1)
  rw [hsucc] at hnext
  rw [firstRow]
  split
  · rename_i hstart
    have hlt := Text.rowOf_lt_of_mem hstart (Nat.sub_lt h Nat.one_pos)
    omega
  · rename_i hstart
    rw [Text.rowOf_eq (Nat.sub_le start 1)]
    intro hfeed
    rcases mem_slice.mp hfeed with ⟨i, hlow, hhigh, hchar⟩
    exact hstart (mem_lineStarts.mpr (.inr ⟨i, hchar, by omega⟩))

/-- The lines that lie in a token of white space as a whole are a run. -/
theorem isRun_of_span (hreturn : '\r' ∉ source) (hlaid : LaidOut source lexemes)
    (hs : s ∈ spansOf source lexemes) (hkind : s.kind = .whitespace)
    (hfeed : '\n' ∈ slice source s.start s.stop) :
    firstRow source s.start ≤ Text.rowOf source s.stop ∧
      IsRun (IsWhiteRow source lexemes) (firstRow source s.start)
        (Text.rowOf source s.stop - firstRow source s.start) := by
  rcases (spansOf_tiles source lexemes).mem hs with ⟨_, hlt, hstop⟩
  rcases isWhite_borders hreturn hlaid hs hkind with ⟨hleft, hright⟩
  have hrows := Text.rowOf_lt hfeed
  have hle : firstRow source s.start ≤ Text.rowOf source s.stop := by
    rw [firstRow]
    split <;> omega
  refine ⟨hle, ⟨fun k hlow hhigh => ⟨?_, fun i hi hrow => ?_⟩, ?_, ?_⟩⟩
  · have hbound := Text.rowOf_le source s.stop
    omega
  · -- A character of the line is neither in front of the token nor behind it.
    have hbehind : i < s.stop := by
      by_contra hnot
      have hmono : Text.rowOf source s.stop ≤ Text.rowOf source i :=
        Text.rowOf_mono (Nat.le_of_not_lt hnot)
      omega
    have hbefore : s.start ≤ i := by
      by_contra hnot
      rw [firstRow] at hlow
      split at hlow
      · rename_i hstart
        have hearlier := Text.rowOf_lt_of_mem hstart (Nat.lt_of_not_le hnot)
        omega
      · have hmono : Text.rowOf source i ≤ Text.rowOf source s.start :=
          Text.rowOf_mono (Nat.le_of_lt (Nat.lt_of_not_le hnot))
        omega
    exact (isWhite_iff hreturn hlaid hs hbefore hbehind).mpr hkind
  · by_cases hzero : s.start = 0
    · have hstart : 0 ∈ lineStarts source := List.mem_cons_self
      left
      rw [firstRow, hzero, if_pos hstart]
      rfl
    · have hpred : Text.rowOf source (s.start - 1) + 1 = firstRow source s.start :=
        rowOf_pred (Nat.pos_of_ne_zero hzero)
      exact .inr fun hrow => hleft.resolve_left hzero (hrow.2 _ (by omega) (by omega))
  · rw [Nat.add_sub_cancel' hle]
    rintro ⟨hlast, hwhite⟩
    rcases hright with hend | hother
    · rw [hend, Text.rowOf_length] at hlast
      exact Nat.lt_irrefl _ hlast
    · by_cases hend : s.stop < source.length
      · exact hother (hwhite s.stop hend rfl)
      · have heq : s.stop = source.length := Nat.le_antisymm hstop (Nat.le_of_not_lt hend)
        rw [heq, Text.rowOf_length] at hlast
        exact Nat.lt_irrefl _ hlast

variable (severity : Severity) {limit : Int}

/-- What is reported of a token of white space is what stands against its run. -/
theorem finding?_of_span (hkind : s.kind = .whitespace) (hle : s.start ≤ s.stop)
    (hfeed : '\n' ∈ slice source s.start s.stop) :
    finding? severity limit (s.token path source index) =
      if limit < (Text.rowOf source s.stop - firstRow source s.start : Nat) then
        some (ofRun severity limit (firstRow source s.start)
          (Text.rowOf source s.stop - firstRow source s.start))
      else none := by
  have hstands := s.standsAt_token path source index hle
  have hrows : Text.rowOf source s.start + (s.token path source index).breakCount =
      Text.rowOf source s.stop := Text.rowOf_add hle
  have hbreak : (s.token path source index).hasBreak = true := (Token.hasBreak_iff _).mpr hfeed
  have hsort : ((s.token path source index).isWhitespace && (s.token path source index).hasBreak) =
      true := by
    rw [Bool.and_eq_true, Token.isWhitespace, decide_eq_true_eq]
    exact ⟨hkind, hbreak⟩
  have hline : (s.token path source index).line = 1 + (Text.rowOf source s.start : Nat) :=
    hstands.line
  have hlength : s.start ≤ source.length := by
    rcases mem_slice.mp hfeed with ⟨i, hlow, _, hchar⟩
    have hlt := (List.getElem?_eq_some_iff.mp hchar).1
    omega
  have hcolumn : (s.token path source index).column = 1 ↔ s.start ∈ lineStarts source :=
    hstands.column_eq_one.trans (mem_lineStarts_iff hlength).symm
  have hpos := Text.rowOf_lt hfeed
  rw [finding?, if_pos hsort]
  -- The first line feed of the token ends a blank line if and only if the token starts one.
  by_cases hstart : s.start ∈ lineStarts source
  · have hcount : ((s.token path source index).breakCount : Int) =
        (Text.rowOf source s.stop - firstRow source s.start : Nat) := by
      rw [firstRow, if_pos hstart]
      omega
    have hfirst : (s.token path source index).line = firstRow source s.start + 1 := by
      rw [firstRow, if_pos hstart, hline]
      omega
    simp only [hcolumn.mpr hstart, if_true, hcount, hfirst]
    rfl
  · have hcount : ((s.token path source index).breakCount : Int) - 1 =
        (Text.rowOf source s.stop - firstRow source s.start : Nat) := by
      rw [firstRow, if_neg hstart]
      omega
    have hfirst : (s.token path source index).line + 1 = firstRow source s.start + 1 := by
      rw [firstRow, if_neg hstart, hline]
      omega
    simp only [mt hcolumn.mp hstart, if_false, hcount, hfirst]
    rfl

/-- A run with a line in it has its lines in one token of white space. -/
theorem exists_span_of_isRun (hreturn : '\r' ∉ source) (hlaid : LaidOut source lexemes)
    {first count : Nat} (hrun : IsRun (IsWhiteRow source lexemes) first count) (hcount : 0 < count) :
    ∃ s ∈ spansOf source lexemes, s.kind = .whitespace ∧ '\n' ∈ slice source s.start s.stop ∧
      first = firstRow source s.start ∧
      count = Text.rowOf source s.stop - firstRow source s.start := by
  rcases hrun.inside first (Nat.le_refl first) (Nat.lt_add_of_pos_right hcount) with ⟨hlast, hwhite⟩
  rcases Text.exists_feed_of_row hlast with ⟨i, hfeed, hrow⟩
  have hi := (List.getElem?_eq_some_iff.mp hfeed).1
  rcases exists_span_of_isWhite hreturn hlaid hi (hwhite i hi hrow) with
    ⟨s, hs, hkind, hlow, hhigh⟩
  have hmem : '\n' ∈ slice source s.start s.stop := mem_slice.mpr ⟨i, hlow, hhigh, hfeed⟩
  rcases isRun_of_span hreturn hlaid hs hkind hmem with ⟨hle, hrun'⟩
  have hbehind : first < Text.rowOf source s.stop := by
    rw [← hrow]
    exact Text.rowOf_lt (mem_slice.mpr ⟨i, Nat.le_refl i, hhigh, hfeed⟩)
  have hbefore : firstRow source s.start ≤ first := by
    have hmono : Text.rowOf source s.start ≤ Text.rowOf source i := Text.rowOf_mono hlow
    by_cases hzero : s.start = 0
    · have hstart : 0 ∈ lineStarts source := List.mem_cons_self
      rw [firstRow, hzero, if_pos hstart]
      exact Nat.zero_le first
    · have hpred : Text.rowOf source (s.start - 1) + 1 = firstRow source s.start :=
        rowOf_pred (Nat.pos_of_ne_zero hzero)
      have hother := (isWhite_borders hreturn hlaid hs hkind).1.resolve_left hzero
      have hearlier : Text.rowOf source (s.start - 1) ≤ Text.rowOf source s.start :=
        Text.rowOf_mono (Nat.sub_le s.start 1)
      -- The character in front of the token is not white, so it is on an earlier line.
      have hne : Text.rowOf source (s.start - 1) ≠ first := fun heq =>
        hother (hwhite _ (by omega) heq)
      omega
  exact ⟨s, hs, hkind, hmem, hrun.unique hrun' (Nat.le_refl first)
    (Nat.lt_add_of_pos_right hcount) hbefore (by omega)⟩

/-- A finding is what stands against a run of white lines that is too long. -/
theorem mem_findings_iff (hreturn : '\r' ∉ source) (hlaid : LaidOut source lexemes)
    (hlimit : 0 ≤ limit) (f : Finding) :
    f ∈ (tokensFrom path source .origin 0 (spansOf source lexemes)).filterMap
        (finding? severity limit) ↔
      ∃ first count : Nat, IsRun (IsWhiteRow source lexemes) first count ∧ limit < count ∧
        f = ofRun severity limit first count := by
  have htiles := spansOf_tiles source lexemes
  rw [List.mem_filterMap]
  constructor
  · rintro ⟨t, ht, hf⟩
    rcases exists_span_of_mem htiles ht with ⟨s, hs, index, rfl⟩
    have hle := Nat.le_of_lt (htiles.mem hs).2.1
    have hsort : ((s.token path source index).isWhitespace &&
        (s.token path source index).hasBreak) = true := by
      by_contra hnot
      rw [finding?, if_neg hnot] at hf
      cases hf
    rw [Bool.and_eq_true, Token.isWhitespace, decide_eq_true_eq, Token.hasBreak_iff] at hsort
    have hrun := (isRun_of_span hreturn hlaid hs hsort.1 hsort.2).2
    rw [finding?_of_span severity hsort.1 hle hsort.2] at hf
    split at hf
    · rename_i hover
      exact ⟨_, _, hrun, hover, (Option.some.inj hf).symm⟩
    · cases hf
  · rintro ⟨first, count, hrun, hover, rfl⟩
    rcases exists_span_of_isRun hreturn hlaid hrun (by omega) with
      ⟨s, hs, hkind, hfeed, rfl, rfl⟩
    have hle := Nat.le_of_lt (htiles.mem hs).2.1
    have htoken : ∃ i : Nat, s.token path source i ∈
        tokensFrom path source .origin 0 (spansOf source lexemes) := exists_token_of_mem htiles hs
    rcases htoken with ⟨i, hi⟩
    exact ⟨_, hi, by rw [finding?_of_span severity hkind hle hfeed, if_pos hover]⟩

end Spans

end BlankLines

/-- The rule against long runs of blank lines, run by run. For a lexer that is in order,
    covers no part of a blank line but its line feed, and passes over nothing but white
    space and line joins, the rule reads all tokens and reports each run of blank lines that
    count and are too many, once, and nothing else. -/
theorem blankLines_by_run (path : Path) (source : List Char) (lexemes : List Lexeme)
    (hreturn : '\r' ∉ source) (hlaid : LaidOut source lexemes)
    (hline : ∀ l ∈ lexemes, l.first source < l.last source → l.StaysOnLine source)
    (severity : Severity) {limit : Int} (hlimit : 0 ≤ limit) (position : Nat) :
    ∃ s findings, tokenize path source ⟨lexemes, none⟩ = .ok s ∧
      (BlankLines.rule severity limit).run { s with position } = ⟨findings, s.size, none⟩ ∧
      findings.Pairwise (fun f g => f.line < g.line) ∧
      ∀ f, f ∈ findings ↔ ∃ first count : Nat,
        IsRun (BlankLines.CountsRow source lexemes) first count ∧ limit < count ∧
          f = BlankLines.ofRun severity limit first count := by
  have hrows : BlankLines.CountsRow source lexemes = IsWhiteRow source lexemes :=
    funext fun k => propext (BlankLines.countsRow_iff hlaid hline k)
  have hrises := rising_flatMap Text.openLine _ _ []
    (fun _ _ h => BlankLines.rising_finding? severity hlimit h)
    (tokenize_placed path source lexemes)
  rw [← List.filterMap_eq_flatMap_toList] at hrises
  refine ⟨_, _, tokenize_ok path source lexemes, ?_, hrises.rises, fun f => ?_⟩
  · rw [← Nat.zero_max (TokenStream.size _)]
    rfl
  · rw [hrows]
    exact BlankLines.mem_findings_iff severity hreturn hlaid hlimit f

/-- Blank lines in a bracket, and behind the end of a statement, one of them with a blank. -/
def looseSource : List Char := "(1,\n\n\n\n2)\n\n \n\ny\n".toList

/-- What a lexer makes of them. -/
def looseLexemes : List Lexeme :=
  [⟨.op, ['('], ⟨1, 0⟩, ⟨1, 1⟩⟩, ⟨.number, ['1'], ⟨1, 1⟩, ⟨1, 2⟩⟩, ⟨.op, [','], ⟨1, 2⟩, ⟨1, 3⟩⟩,
    ⟨.nl, ['\n'], ⟨1, 3⟩, ⟨1, 4⟩⟩, ⟨.nl, ['\n'], ⟨2, 0⟩, ⟨2, 1⟩⟩, ⟨.nl, ['\n'], ⟨3, 0⟩, ⟨3, 1⟩⟩,
    ⟨.nl, ['\n'], ⟨4, 0⟩, ⟨4, 1⟩⟩, ⟨.number, ['2'], ⟨5, 0⟩, ⟨5, 1⟩⟩, ⟨.op, [')'], ⟨5, 1⟩, ⟨5, 2⟩⟩,
    ⟨.newline, ['\n'], ⟨5, 2⟩, ⟨5, 3⟩⟩, ⟨.nl, ['\n'], ⟨6, 0⟩, ⟨6, 1⟩⟩,
    ⟨.nl, ['\n'], ⟨7, 1⟩, ⟨7, 2⟩⟩, ⟨.nl, ['\n'], ⟨8, 0⟩, ⟨8, 1⟩⟩, ⟨.name, ['y'], ⟨9, 0⟩, ⟨9, 1⟩⟩,
    ⟨.newline, ['\n'], ⟨9, 1⟩, ⟨9, 2⟩⟩, ⟨.endMarker, [], ⟨10, 0⟩, ⟨10, 0⟩⟩]

/-- Both runs are found: of the lines from the second on, and of those from the sixth on. -/
theorem blankLines_by_run_loose :
    '\r' ∉ looseSource ∧ LaidOut looseSource looseLexemes ∧
      (∀ l ∈ looseLexemes, l.first looseSource < l.last looseSource →
        l.StaysOnLine looseSource) ∧ 0 ≤ (2 : Int) ∧
      ∃ s findings, tokenize .here looseSource ⟨looseLexemes, none⟩ = .ok s ∧
        (BlankLines.rule .warning 2).run s = ⟨findings, s.size, none⟩ ∧
        ⟨.warning, 4, 1, "Too many blank lines (3 > 2)"⟩ ∈ findings ∧
        ⟨.warning, 8, 1, "Too many blank lines (3 > 2)"⟩ ∈ findings := by
  have hreturn : '\r' ∉ looseSource := by decide
  have hlaid : LaidOut looseSource looseLexemes := by decide +kernel
  have hline : ∀ l ∈ looseLexemes, l.first looseSource < l.last looseSource →
      l.StaysOnLine looseSource := by decide +kernel
  have hfirst : IsRun (BlankLines.CountsRow looseSource looseLexemes) 1 3 := by decide +kernel
  have hsecond : IsRun (BlankLines.CountsRow looseSource looseLexemes) 5 3 := by decide +kernel
  rcases blankLines_by_run .here looseSource looseLexemes hreturn hlaid hline .warning
    (by decide : 0 ≤ (2 : Int)) 0 with ⟨s, findings, hs, hrun, _, hfindings⟩
  exact ⟨hreturn, hlaid, hline, by decide, s, findings, hs, hrun,
    (hfindings _).mpr ⟨1, 3, hfirst, by decide, by decide +kernel⟩,
    (hfindings _).mpr ⟨5, 3, hsecond, by decide, by decide +kernel⟩⟩

/-- A statement that a line join goes on with into three blank lines. -/
def trailingJoin : List Char := "x = 1 \\\n\n\n\ny = 2\n".toList

/-- What a lexer makes of it. -/
def trailingJoinLexemes : List Lexeme :=
  [⟨.name, ['x'], ⟨1, 0⟩, ⟨1, 1⟩⟩, ⟨.op, ['='], ⟨1, 2⟩, ⟨1, 3⟩⟩, ⟨.number, ['1'], ⟨1, 4⟩, ⟨1, 5⟩⟩,
    ⟨.newline, ['\n'], ⟨2, 0⟩, ⟨2, 1⟩⟩, ⟨.nl, ['\n'], ⟨3, 0⟩, ⟨3, 1⟩⟩, ⟨.nl, ['\n'], ⟨4, 0⟩, ⟨4, 1⟩⟩,
    ⟨.name, ['y'], ⟨5, 0⟩, ⟨5, 1⟩⟩, ⟨.op, ['='], ⟨5, 2⟩, ⟨5, 3⟩⟩, ⟨.number, ['2'], ⟨5, 4⟩, ⟨5, 5⟩⟩,
    ⟨.newline, ['\n'], ⟨5, 5⟩, ⟨5, 6⟩⟩, ⟨.endMarker, [], ⟨6, 0⟩, ⟨6, 0⟩⟩]

/-- A run of three blank lines behind a line join is not found where only two may stand. All
    lexemes are as they should be. -/
theorem blankLines_misses_joined :
    '\r' ∉ trailingJoin ∧ LaidOut trailingJoin trailingJoinLexemes ∧
      (∀ l ∈ trailingJoinLexemes, l.first trailingJoin < l.last trailingJoin →
        l.StaysOnLine trailingJoin ∧ (l.isTerminator = false →
          ∃ c ∈ trailingJoin[l.last trailingJoin - 1]?, Text.isBlank c = false)) ∧
      IsRun (fun k => ∃ placed ∈ (Text.placedLines trailingJoin)[k]?, placed.2.isEnded = true ∧
        ∀ c ∈ placed.2.content, Text.isBlank c = true) 1 3 ∧
      ∃ s, tokenize .here trailingJoin ⟨trailingJoinLexemes, none⟩ = .ok s ∧
        ((BlankLines.rule .warning 2).run s).findings = [] :=
  ⟨by decide, by decide +kernel, by decide +kernel, by decide +kernel, _,
    tokenize_ok .here trailingJoin trailingJoinLexemes, by decide +kernel⟩

end TokenLint
