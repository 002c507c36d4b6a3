import TokenLint.Proofs.Rule.Rising
import TokenLint.Proofs.Token.Layout
import TokenLint.Rule.Whitespace

/-!
# Tabs in Indentation

The rule against tabs in indentation reads tokens of white space and tokens of
indentation, and what it reports is about lines. Which lines these are can be
said without tokens. `Sees` does so: the line does not begin inside a lexeme or
in a line join, and there is an end to its indentation that is more than the
end of a blank line.

A line starts in one token. If that is a token of white space which ends on the
same line, then the white space cannot be made any longer there, and it is all
of the indentation. If it goes on behind the line, the line is blank, and a
blank line has nothing that the rule looks for. `filterMap_startsIn` is this
argument for any judgement of lines, and the cases of `Span.Shows` supply what
it asks for.

A line join takes the indentation behind it out of sight. The backslash makes
the text up to the next lexeme a token of its own kind, at which the rule does
not look, and so a tab that indents the second line of a joined statement is
not found.

## Main definitions

* `TabIndentation.firstTab?`: What is reported of some indentation.
* `TabIndentation.Sees`: A line whose indentation is in sight.
* `TabIndentation.ofLine`: What the rule is about.

## Theorems

* `TabIndentation.finding?_of_start`, `TabIndentation.finding?_of_no_start`:
  What is reported of a token, by the lines that start in it.
* `TabIndentation.filterMap_startsIn`: From the lines of a token to the token.
* `TabIndentation.sees_of_white`: The white space in front of a line.
* `tabIndentation_by_line`: The rule line by line.
* `tabIndentation_misses_joined`: A tab behind a line join.
-/

namespace TokenLint

/-- Where all elements but one are left out, what is kept is made of that one. -/
theorem filterMap_eq_toList {α β : Type} {f : α → Option β} {xs : List α} {x : α}
    (hdistinct : xs.Nodup) (hx : x ∈ xs) (hothers : ∀ y ∈ xs, y ≠ x → f y = none) :
    xs.filterMap f = (f x).toList := by
  induction xs with
  | nil => exact absurd hx List.not_mem_nil
  | cons first rest ih =>
      rw [List.nodup_cons] at hdistinct
      rw [filterMap_cons_toList]
      rcases List.mem_cons.mp hx with rfl | hrest
      · have hnone : rest.filterMap f = [] := by
          rw [List.filterMap_eq_nil_iff]
          exact fun y hy => hothers y (List.mem_cons_of_mem _ hy) fun heq => hdistinct.1 (heq ▸ hy)
        rw [hnone, List.append_nil]
      · rw [hothers first List.mem_cons_self fun heq => hdistinct.1 (heq ▸ hrest),
          ih hdistinct.2 hrest fun y hy => hothers y (List.mem_cons_of_mem first hy)]
        rfl

namespace TabIndentation

/-- What is reported of the indentation of a line: its first tab. -/
def firstTab? (severity : Severity) (line : Int) (blanks : List Char) : Option Finding :=
  (blanks.findIdx? (· == '\t')).map fun place : Nat =>
    ⟨severity, line, place + 1, "Indentation contains a tab character"⟩

section Definitions

variable (source : List Char) (lexemes : List Lexeme)

/-- A line whose indentation is in sight, by the offset at which it starts and by what
    stands on it. It does not begin inside a lexeme or in a line join, and it is not blank,
    or it is one that ends a statement or that the lexer takes for indented. -/
structure Sees (start : Nat) (content : List Char) : Prop where
  outside : ∀ l ∈ lexemes, ¬ (l.first source < start ∧ start < l.last source)
  unjoined : ¬ IsJoined source lexemes start
  filled : (∃ c ∈ content, Text.isBlank c = false) ∨
    (∃ l ∈ lexemes, l.kind = .newline ∧ l.Covers source (start + content.length)) ∨
      ∃ l ∈ lexemes, l.kind = .indent ∧ l.Covers source start

instance (start : Nat) (content : List Char) : Decidable (Sees source lexemes start content) :=
  decidable_of_iff ((∀ l ∈ lexemes, ¬ (l.first source < start ∧ start < l.last source)) ∧
      ¬ IsJoined source lexemes start ∧
      ((∃ c ∈ content, Text.isBlank c = false) ∨
        (∃ l ∈ lexemes, l.kind = .newline ∧ l.Covers source (start + content.length)) ∨
          ∃ l ∈ lexemes, l.kind = .indent ∧ l.Covers source start))
    ⟨fun h => ⟨h.1, h.2.1, h.2.2⟩, fun h => ⟨h.outside, h.unjoined, h.filled⟩⟩

/-- What stands against a line that starts at an offset: a tab in its indentation, if that
    is in sight. The place is that of the first one. -/
def ofLine (severity : Severity) : Nat × Text.PhysicalLine → Option Finding
  | (start, line) =>
    if Sees source lexemes start line.content then
      firstTab? severity line.number (Text.indentation line.content)
    else none

end Definitions

section Tokens

variable {path : Path} {source : List Char} {s : Span} {index : Nat} (severity : Severity)

theorem finding?_eq_firstTab? {t : Token} (h : t.kind = .whitespace ∨ t.kind = .indent) :
    finding? severity t = firstTab? severity (indentation t).2 (indentation t).1 := by
  have hsort : (t.isWhitespace || t.kind = .indent) = true := by
    rw [Bool.or_eq_true, Token.isWhitespace, decide_eq_true_eq, decide_eq_true_eq]
    exact h
  rw [finding?, if_pos hsort]
  rfl

theorem finding?_eq_none {t : Token} (h : t.kind ≠ .whitespace) (h' : t.kind ≠ .indent) :
    finding? severity t = none := by
  refine if_neg fun hsort => ?_
  rw [Bool.or_eq_true, Token.isWhitespace, decide_eq_true_eq, decide_eq_true_eq] at hsort
  exact hsort.elim h h'

/-- A token in which a line starts that it does not end holds the indentation of that line,
    from its start to the end of the token. -/
theorem finding?_of_start (hkind : s.kind = .whitespace ∨ s.kind = .indent)
    (hstop : s.stop ≤ source.length) {p : Nat} (hp : p ∈ lineStarts source) (hlow : s.start ≤ p)
    (hhigh : p ≤ s.stop) (hfeed : '\n' ∉ slice source p s.stop) :
    finding? severity (s.token path source index) =
      firstTab? severity (Text.openLine (source.take p)) (slice source p s.stop) := by
  have hle : s.start ≤ s.stop := Nat.le_trans hlow hhigh
  have hstands := s.standsAt_token path source index hle
  have hbreak := (s.token path source index).hasBreak_iff
  have hlast := (mem_lineStarts_iff (Nat.le_trans hhigh hstop)).mp hp
  have htext : source.take s.start ++ slice source s.start s.stop =
      source.take p ++ slice source p s.stop := by
    rw [take_append_slice source hle, take_append_slice source hhigh]
  rw [finding?_eq_firstTab? severity hkind, indentation]
  split
  · rename_i hmem
    have hmem' : '\n' ∈ slice source s.start s.stop := hbreak.mp hmem
    have hblanks : (s.token path source index).trailingBlanks = slice source p s.stop := by
      rw [Token.trailingBlanks, if_pos hmem]
      change Text.lastLine (slice source s.start s.stop) = _
      rw [← Text.lastLine_append_of_mem (source.take s.start) _ hmem', htext,
        Text.lastLine_append_of_not_mem _ _ hfeed, hlast, List.nil_append]
    have hline : (s.token path source index).line + (s.token path source index).breakCount =
        Text.openLine (source.take p) := by
      rw [hstands.line_add_breakCount]
      change Text.openLine (source.take s.start ++ slice source s.start s.stop) = _
      rw [htext, Text.openLine_append_of_not_mem _ _ hfeed]
    rw [hblanks, hline]
  · rename_i hmem
    -- Without a line feed in the token the line starts where the token does.
    have heq : p = s.start := by
      by_contra hne
      exact hmem (hbreak.mpr (newline_mem_slice hp (by omega) hhigh))
    subst heq
    rw [if_pos (hstands.column_eq_one.mpr hlast), hstands.line]
    rfl

/-- Any other token holds no indentation. -/
theorem finding?_of_no_start (hstop : s.stop ≤ source.length) (hlt : s.start < s.stop)
    (h : ∀ p ∈ lineStarts source, s.start ≤ p → p < s.stop → '\n' ∈ slice source p s.stop) :
    finding? severity (s.token path source index) = none := by
  by_cases hkind : s.kind = .whitespace ∨ s.kind = .indent
  · rcases exists_lineStart_le source s.stop with ⟨p, hp, hle, hfeed⟩
    by_cases hlow : s.start ≤ p
    · -- The token ends with a line feed, and nothing is left of it on the line behind that.
      have heq : p = s.stop := by
        by_contra hne
        exact hfeed (h p hp hlow (by omega))
      rw [finding?_of_start severity hkind hstop hp hlow hle hfeed, heq, slice_self]
      rfl
    · have hstands := s.standsAt_token path source index (Nat.le_of_lt hlt)
      have hbreak : ¬ (s.token path source index).hasBreak = true := by
        intro hmem
        rcases mem_slice.mp ((Token.hasBreak_iff _).mp hmem) with ⟨i, hi, hi', hchar⟩
        exact hfeed (mem_slice.mpr ⟨i, by omega, hi', hchar⟩)
      have hcolumn : ¬ (s.token path source index).column = 1 := by
        intro hone
        have hmem := (mem_lineStarts_iff (by omega)).mpr (hstands.column_eq_one.mp hone)
        exact hbreak ((Token.hasBreak_iff _).mpr (h s.start hmem (Nat.le_refl _) hlt))
      rw [finding?_eq_firstTab? severity hkind, indentation, if_neg hbreak, if_neg hcolumn]
      rfl
  · rw [not_or] at hkind
    exact finding?_eq_none severity hkind.1 hkind.2

/-- The lines that start in a token. If those that it ends have nothing to report, and the
    one that it does not end has what the token says, then the token says it all. -/
theorem filterMap_startsIn (hkind : s.kind = .whitespace ∨ s.kind = .indent)
    (hstop : s.stop ≤ source.length) (hlt : s.start < s.stop) {report : Nat → Option Finding}
    (hended : ∀ p ∈ startsIn source s.start s.stop, '\n' ∈ slice source p s.stop → report p = none)
    (hopen : ∀ p ∈ startsIn source s.start s.stop, '\n' ∉ slice source p s.stop →
      report p = firstTab? severity (Text.openLine (source.take p)) (slice source p s.stop)) :
    (startsIn source s.start s.stop).filterMap report =
      (finding? severity (s.token path source index)).toList := by
  by_cases hsome : ∃ p ∈ startsIn source s.start s.stop, '\n' ∉ slice source p s.stop
  · rcases hsome with ⟨p, hp, hfeed⟩
    rcases mem_startsIn.mp hp with ⟨hstart, hlow, hhigh⟩
    have hdistinct : (startsIn source s.start s.stop).Nodup :=
      ((lineStarts_pairwise source).filter _).imp Nat.ne_of_lt
    rw [filterMap_eq_toList hdistinct hp fun q hq hne => ?_, hopen p hp hfeed,
      finding?_of_start severity hkind hstop hstart hlow (Nat.le_of_lt hhigh) hfeed]
    -- Of two lines that start in the token it ends the first.
    rcases mem_startsIn.mp hq with ⟨hstart', _, hhigh'⟩
    rcases Nat.lt_or_gt_of_ne hne with hbefore | hbehind
    · exact hended q hq (newline_mem_slice hstart hbefore (Nat.le_of_lt hhigh))
    · exact absurd (newline_mem_slice hstart' hbehind (Nat.le_of_lt hhigh')) hfeed
  · rw [finding?_of_no_start severity hstop hlt fun p hp hlow hhigh => ?_]
    · rw [List.filterMap_eq_nil_iff.mpr]
      · rfl
      · exact fun p hp => hended p hp (by_contra fun hfeed => hsome ⟨p, hp, hfeed⟩)
    · exact by_contra fun hfeed => hsome ⟨p, mem_startsIn.mpr ⟨hp, hlow, hhigh⟩, hfeed⟩

end Tokens

section Lines

variable {source : List Char} {lexemes : List Lexeme} (severity : Severity)

/-- What stands against the line at an offset. -/
theorem ofLine_lineAt (p : Nat) : ofLine source lexemes severity (p, Text.lineAt source p) =
    if Sees source lexemes p (Text.lineFrom source p) then
      firstTab? severity (Text.openLine (source.take p))
        (Text.indentation (Text.lineFrom source p))
    else none := rfl

theorem ofLine_of_sees {p : Nat} (h : Sees source lexemes p (Text.lineFrom source p)) :
    ofLine source lexemes severity (p, Text.lineAt source p) =
      firstTab? severity (Text.openLine (source.take p))
        (Text.indentation (Text.lineFrom source p)) := by
  rw [ofLine_lineAt, if_pos h]

theorem ofLine_of_not_sees {p : Nat} (h : ¬ Sees source lexemes p (Text.lineFrom source p)) :
    ofLine source lexemes severity (p, Text.lineAt source p) = none := by
  rw [ofLine_lineAt, if_neg h]

/-- Nothing stands against a line that is empty or not indented. -/
theorem ofLine_of_not_indented {p : Nat}
    (h : ∀ c, source[p]? = some c → c = '\n' ∨ Text.isBlank c = false) :
    ofLine source lexemes severity (p, Text.lineAt source p) = none := by
  have hslice := slice_self source p
  have hblanks : Text.indentation (Text.lineFrom source p) = [] := by
    rw [Text.indentation_lineFrom (Nat.le_refl p) (by rw [hslice]; exact List.not_mem_nil)
      (by rw [hslice]; exact fun c hc => absurd hc List.not_mem_nil) h, hslice]
  rw [ofLine_lineAt, hblanks]
  split <;> rfl

/-- What is in front of a character is passed over as it is, unless a lexeme is between. -/
theorem exists_covers_of_not_isWhite {i : Nat} (hskipped : IsSkipped source lexemes i)
    (hfree : ¬ IsJoined source lexemes i) (hnext : ¬ IsWhite source lexemes (i + 1)) :
    ∃ l ∈ lexemes, l.Covers source (i + 1) := by
  by_contra hnone
  have hskipped' : IsSkipped source lexemes (i + 1) := fun l hl hcovers => hnone ⟨l, hl, hcovers⟩
  refine hnext (.inl ⟨hskipped', fun hjoined => hfree ?_⟩)
  -- A line join that reaches the second character reaches the first one as well.
  rcases hjoined with ⟨j, hj, hchar, hbetween⟩
  refine ⟨j, hj, hchar, fun k hk hk' => ?_⟩
  by_cases heq : k = i
  · exact heq ▸ hskipped
  · exact hbetween k (by omega) (by omega)

end Lines

section Spans

variable {path : Path} {source : List Char} {lexemes : List Lexeme} (hreturn : '\r' ∉ source)
  (hend : source = [] ∨ source.getLast? = some '\n') (hlaid : LaidOut source lexemes)
  (severity : Severity) {s : Span} {index : Nat}

/-- What is behind the white space in front of a line is a lexeme: the end of a statement, or
    something that begins with a character that is not blank. -/
theorem exists_behind_white (hlaid : LaidOut source lexemes) {i : Nat}
    (hwhite : IsWhite source lexemes i) (hchar : source[i]? ≠ some '\n')
    (hnext : ¬ IsWhite source lexemes (i + 1)) :
    ∃ l ∈ lexemes, l.Covers source (i + 1) ∧
      (l.kind = .newline ∧ source[i + 1]? = some '\n' ∨
        ∃ c, source[i + 1]? = some c ∧ Text.isBlank c = false) := by
  have hskipped := hwhite.isSkipped hlaid hchar
  rcases exists_covers_of_not_isWhite hskipped hwhite.not_isJoined hnext with ⟨l, hl, hcovers⟩
  have htidy := hlaid.isTidy hl hcovers
  -- No lexeme covers the white space, so this one starts behind it.
  have hfirst : l.first source = i + 1 := by
    have hlow := hcovers.1
    have hhigh := hcovers.2
    by_contra hne
    exact hskipped l hl ⟨by omega, by omega⟩
  refine ⟨l, hl, hcovers, ?_⟩
  by_cases hterm : l.isTerminator = true
  · have hfeed := (hlaid.eq_first_of_isTerminator hl hterm hcovers).2
    rcases Lexeme.kind_of_isTerminator hterm with hkind | hkind
    · exact .inl ⟨hkind, hfeed⟩
    · exact absurd (.inr ⟨l, hl, hkind, hcovers⟩) hnext
  · rw [Bool.not_eq_true] at hterm
    by_cases hkind : l.kind = .indent
    · -- Indentation starts a line, and the white space is on this one.
      rcases mem_lineStarts.mp (htidy.indent hkind).1 with hzero | ⟨q, hfeed, hq⟩
      · omega
      · have heq : q = i := by omega
        exact absurd (heq ▸ hfeed) hchar
    · rcases (htidy.other hterm hkind).2.2 with ⟨c, hc, hfull⟩
      rw [Option.mem_def, hfirst] at hc
      exact .inr ⟨c, hc, hfull⟩

include hend hlaid in
/-- The white space in front of a line is its indentation, and it is in sight. -/
theorem sees_of_white (hwhite : ∀ i, s.start ≤ i → i < s.stop → IsWhite source lexemes i)
    (hborder : s.stop = source.length ∨ ¬ IsWhite source lexemes s.stop)
    (hstop : s.stop ≤ source.length) {p : Nat} (hp : p ∈ startsIn source s.start s.stop)
    (hfeed : '\n' ∉ slice source p s.stop) :
    Sees source lexemes p (Text.lineFrom source p) ∧
      Text.indentation (Text.lineFrom source p) = slice source p s.stop := by
  rcases mem_startsIn.mp hp with ⟨hstart, hlow, hhigh⟩
  have hplain : ∀ i, p ≤ i → i < s.stop → source[i]? ≠ some '\n' := fun i hi hi' hchar =>
    hfeed (mem_slice.mpr ⟨i, hi, hi', hchar⟩)
  have hblank : ∀ c ∈ slice source p s.stop, Text.isBlank c = true := by
    intro c hc
    rcases mem_slice.mp hc with ⟨i, hi, hi', hchar⟩
    exact (hwhite i (by omega) hi').isBlank hlaid hchar
  rcases Nat.exists_eq_add_of_lt hhigh with ⟨k, hk⟩
  have hlast := hwhite (p + k) (by omega) (by omega)
  -- The source ends with a line feed, so it does not end with this white space.
  have hnext : ¬ IsWhite source lexemes (p + k + 1) := by
    rw [← hk]
    refine hborder.resolve_left fun hall => ?_
    rcases hend with hnil | hfeed'
    · rw [hnil, List.length_nil] at hstop
      omega
    · rw [List.getLast?_eq_getElem?, ← hall] at hfeed'
      exact hplain (s.stop - 1) (by omega) (by omega) hfeed'
  rcases exists_behind_white hlaid hlast (hplain _ (by omega) (by omega)) hnext with
    ⟨l, hl, hcovers, hsort⟩
  rw [← hk] at hcovers hsort
  have hline := Text.lineFrom_eq_append (Nat.le_of_lt hhigh) hfeed
  have hlength := length_slice source p s.stop hstop
  have hfront := hwhite p hlow hhigh
  refine ⟨⟨fun m hm hinside => ?_, hfront.not_isJoined, ?_⟩, ?_⟩
  · -- Only a line end can cover white space, and that starts where it stops being one.
    have hcovers' : m.Covers source p := ⟨Nat.le_of_lt hinside.1, hinside.2⟩
    have hterm := hlaid.isTerminator_of_nl hm (hfront.kind_eq hlaid hm hcovers') hcovers'
    have heq := (hlaid.eq_first_of_isTerminator hm hterm hcovers').1
    omega
  · rcases hsort with ⟨hkind, hchar⟩ | ⟨c, hchar, hfull⟩
    · refine .inr (.inl ⟨l, hl, hkind, ?_⟩)
      have hempty : Text.lineFrom source s.stop = [] := by
        rw [Text.lineFrom, List.drop_eq_getElem_cons (List.getElem?_eq_some_iff.mp hchar).1,
          (List.getElem?_eq_some_iff.mp hchar).2]
        rfl
      have hplace : p + (Text.lineFrom source p).length = s.stop := by
        rw [hline, hempty, List.append_nil]
        omega
      rw [hplace]
      exact hcovers
    · refine .inl ⟨c, ?_, hfull⟩
      have hne : (c != '\n') = true := by
        rw [bne_iff_ne]
        rintro rfl
        exact absurd hfull (by decide)
      rw [hline, Text.lineFrom, List.drop_eq_getElem_cons (List.getElem?_eq_some_iff.mp hchar).1,
        (List.getElem?_eq_some_iff.mp hchar).2, List.takeWhile_cons, if_pos hne]
      exact List.mem_append_right _ List.mem_cons_self
  · refine Text.indentation_lineFrom (Nat.le_of_lt hhigh) hfeed hblank fun c hc => ?_
    rcases hsort with ⟨_, hchar⟩ | ⟨d, hchar, hfull⟩
    · exact .inl (Option.some.inj (hc.symm.trans hchar))
    · exact .inr (Option.some.inj (hc.symm.trans hchar) ▸ hfull)

/-- A line that white space runs over is blank, and out of sight. -/
theorem not_sees_of_white (hlaid : LaidOut source lexemes)
    (hwhite : ∀ i, s.start ≤ i → i < s.stop → IsWhite source lexemes i) {p : Nat}
    (hp : p ∈ startsIn source s.start s.stop) (hfeed : '\n' ∈ slice source p s.stop) :
    ¬ Sees source lexemes p (Text.lineFrom source p) := by
  rcases mem_startsIn.mp hp with ⟨_, hlow, hhigh⟩
  rcases mem_slice.mp hfeed with ⟨j, hj, hj', hchar⟩
  have hend := Text.length_lineFrom_le hj hchar
  intro hsees
  rcases hsees.filled with ⟨c, hc, hfull⟩ | ⟨l, hl, hkind, hcovers⟩ | ⟨l, hl, hkind, hcovers⟩
  · rcases Text.mem_lineFrom.mp hc with ⟨k, hk, hk', hchar'⟩
    have hblank := (hwhite k (by omega) (by omega)).isBlank hlaid hchar'
    rw [hfull] at hblank
    exact Bool.noConfusion hblank
  · have hline := (hwhite _ (by omega) (by omega)).kind_eq hlaid hl hcovers
    rw [hkind] at hline
    cases hline
  · have hline := (hwhite p hlow hhigh).kind_eq hlaid hl hcovers
    rw [hkind] at hline
    cases hline

/-- What the lexer takes for indentation is in sight. -/
theorem ofLine_of_indent (hlaid : LaidOut source lexemes) {l : Lexeme} (hl : l ∈ lexemes)
    (hlt : l.first source < l.last source) (hkind : l.kind = .indent) {p : Nat}
    (hp : p ∈ startsIn source (l.first source) (l.last source)) :
    ofLine source lexemes severity (p, Text.lineAt source p) =
      firstTab? severity (Text.openLine (source.take p)) (slice source p (l.last source)) := by
  have hslice := hlaid.slice_of_indent hl hlt hkind
  rcases mem_startsIn.mp hp with ⟨hstart, hlow, hhigh⟩
  have heq : p = l.first source := by
    by_contra hne
    have hmem : '\n' ∈ slice source (l.first source) (l.last source) :=
      newline_mem_slice hstart (by omega) (Nat.le_of_lt hhigh)
    exact hlaid.newline_not_mem_indent hl hlt hkind hmem
  have hcovers : l.Covers source p := ⟨hlow, hhigh⟩
  have hsees : Sees source lexemes p (Text.lineFrom source p) := by
    refine ⟨fun m hm hinside => ?_, fun hjoined => hjoined.isSkipped l hl hcovers,
      .inr (.inr ⟨l, hl, hkind, hcovers⟩)⟩
    have hsame := hlaid.order.eq_of_covers hm hl ⟨Nat.le_of_lt hinside.1, hinside.2⟩ hcovers
    rw [hsame] at hinside
    omega
  rw [ofLine_of_sees severity hsees, heq, hslice]

/-- A line that starts in any other lexeme starts with it, and is not indented, or it is out
    of sight. -/
theorem ofLine_of_lexeme (hlaid : LaidOut source lexemes) {l : Lexeme} (hl : l ∈ lexemes)
    (hlt : l.first source < l.last source) (hkind : l.kind ≠ .indent) {p : Nat}
    (hp : p ∈ startsIn source (l.first source) (l.last source)) :
    ofLine source lexemes severity (p, Text.lineAt source p) = none := by
  rcases mem_startsIn.mp hp with ⟨_, hlow, hhigh⟩
  by_cases heq : p = l.first source
  · refine ofLine_of_not_indented severity fun c hc => ?_
    rw [heq] at hc
    by_cases hterm : l.isTerminator = true
    · have hfeed := ((hlaid.tidy l hl hlt).ending hterm).1
      exact .inl (Option.some.inj (hc.symm.trans hfeed))
    · rw [Bool.not_eq_true] at hterm
      rcases ((hlaid.tidy l hl hlt).other hterm hkind).2.2 with ⟨d, hd, hfull⟩
      exact .inr (Option.some.inj (hc.symm.trans (Option.mem_def.mp hd)) ▸ hfull)
  · exact ofLine_of_not_sees severity fun hsees => hsees.outside l hl ⟨by omega, hhigh⟩

/-- The rule does not look at tokens of other kinds. If nothing stands against the lines that
    start in one, that is as it should be. -/
theorem filterMap_startsIn_of_kind (hwhite : s.kind ≠ .whitespace) (hindent : s.kind ≠ .indent)
    (hnone : ∀ p ∈ startsIn source s.start s.stop,
      ofLine source lexemes severity (p, Text.lineAt source p) = none) :
    (startsIn source s.start s.stop).filterMap
        (fun p => ofLine source lexemes severity (p, Text.lineAt source p)) =
      (finding? severity (s.token path source index)).toList := by
  rw [List.filterMap_eq_nil_iff.mpr hnone, finding?_eq_none severity hwhite hindent]
  rfl

include hreturn hend hlaid in
/-- What stands against the lines that start in a token is what the rule reports of it. -/
theorem filterMap_ofLine (hs : s ∈ spansOf source lexemes) :
    (startsIn source s.start s.stop).filterMap
        (fun p => ofLine source lexemes severity (p, Text.lineAt source p)) =
      (finding? severity (s.token path source index)).toList := by
  rcases (spansOf_tiles source lexemes).mem hs with ⟨_, hlt, hstop⟩
  have hborder := fun hkind => (isWhite_borders hreturn hlaid hs hkind).2
  cases spansOf_shows hreturn hlaid s hs with
  | white hwhite =>
      refine filterMap_startsIn severity (.inl rfl) hstop hlt (fun p hp hfeed => ?_)
        fun p hp hfeed => ?_
      · exact ofLine_of_not_sees severity (not_sees_of_white hlaid hwhite hp hfeed)
      · rcases sees_of_white hend hlaid hwhite (hborder rfl) hstop hp hfeed with ⟨hsees, hblanks⟩
        rw [ofLine_of_sees severity hsees, hblanks]
  | joined hkind hjoined =>
      refine filterMap_startsIn_of_kind severity ?_ ?_ fun p hp => ?_
      · rcases hkind with rfl | rfl <;> exact Kind.noConfusion
      · rcases hkind with rfl | rfl <;> exact Kind.noConfusion
      · rcases mem_startsIn.mp hp with ⟨_, hlow, hhigh⟩
        exact ofLine_of_not_sees severity fun hsees => hsees.unjoined (hjoined p hlow hhigh)
  | @lexeme l hl _ hother hwhite =>
      by_cases hkind : l.kind = .indent
      · have hsort : Kind.ofLexeme l.kind l.text = .indent := by rw [hkind]; rfl
        refine filterMap_startsIn severity (.inr hsort) hstop hlt (fun p hp hfeed => ?_)
          fun p hp _ => ofLine_of_indent severity hlaid hl hlt hkind hp
        -- There is no line feed in indentation.
        rcases mem_slice.mp hfeed with ⟨i, hi, hi', hchar⟩
        exact absurd (mem_slice.mpr ⟨i, Nat.le_trans (mem_startsIn.mp hp).2.1 hi, hi', hchar⟩)
          (hlaid.newline_not_mem_indent hl hlt hkind)
      · refine filterMap_startsIn_of_kind severity (fun hws => ?_) (fun hindent => ?_)
          fun p hp => ofLine_of_lexeme severity hlaid hl hlt hkind hp
        · exact (Kind.eq_of_ofLexeme_eq_whitespace hws).elim hother hwhite
        · exact hkind (Kind.eq_of_ofLexeme_eq_indent hindent)

/-- What the rule reports of the tokens of spans in a row. -/
theorem filterMap_tokensFrom {report : Nat → Option Finding} (spans : List Span) :
    ∀ start stop index : Nat, Tiles start stop spans →
      (∀ s ∈ spans, ∀ index : Nat, (startsIn source s.start s.stop).filterMap report =
        (finding? severity (s.token path source index)).toList) →
      (tokensFrom path source (.past (source.take start)) index spans).filterMap
        (finding? severity) = (startsIn source start stop).filterMap report := by
  induction spans with
  | nil =>
      intro start stop index htiles _
      have heq : start = stop := htiles
      have hnone : startsIn source stop stop = [] := by
        rw [startsIn, List.filter_eq_nil_iff]
        intro p _
        rw [decide_eq_true_eq]
        omega
      rw [heq, hnone]
      rfl
  | cons s spans ih =>
      intro start stop index htiles h
      rcases List.forall_mem_cons.mp h with ⟨hs, hspans⟩
      have hmore := ih s.stop stop (index + 1) htiles.2.2 hspans
      rw [tokensFrom_cons path source s spans index htiles, filterMap_cons_toList, hmore, ← hs index,
        ← List.filterMap_append, htiles.1]
      have hlt := htiles.2.1
      have hstart := htiles.1
      rw [startsIn_append source (by omega) htiles.2.2.le]

end Spans

end TabIndentation

/-- The rule against tabs in indentation, line by line. For a lexer that is in order and
    passes over nothing but white space and line joins, the rule reads all tokens and
    reports each line with a tab in its indentation, as far as that is in sight, and
    nothing else. -/
theorem tabIndentation_by_line (path : Path) (source : List Char) (lexemes : List Lexeme)
    (hreturn : '\r' ∉ source) (hend : source = [] ∨ source.getLast? = some '\n')
    (hlaid : LaidOut source lexemes) (severity : Severity) (position : Nat) :
    ∃ s, tokenize path source ⟨lexemes, none⟩ = .ok s ∧
      (TabIndentation.rule severity).run { s with position } =
        ⟨(Text.placedLines source).filterMap (TabIndentation.ofLine source lexemes severity),
          s.size, none⟩ := by
  refine ⟨_, tokenize_ok path source lexemes, ?_⟩
  have hfindings : (tokensFrom path source .origin 0 (spansOf source lexemes)).filterMap
      (TabIndentation.finding? severity) = (startsIn source 0 source.length).filterMap fun p =>
        TabIndentation.ofLine source lexemes severity (p, Text.lineAt source p) :=
    TabIndentation.filterMap_tokensFrom severity _ 0 source.length 0 (spansOf_tiles source lexemes)
      fun s hs index => TabIndentation.filterMap_ofLine hreturn hend hlaid severity hs
  -- The line that starts at the end of the source has nothing on it.
  have hopen : (startsIn source source.length (source.length + 1)).filterMap (fun p =>
      TabIndentation.ofLine source lexemes severity (p, Text.lineAt source p)) = [] := by
    rw [List.filterMap_eq_nil_iff]
    intro p hp
    refine TabIndentation.ofLine_of_not_indented severity fun c hc => ?_
    have hlt := (List.getElem?_eq_some_iff.mp hc).1
    have hle := (mem_startsIn.mp hp).2.1
    omega
  have hall := startsIn_append source (Nat.zero_le source.length) (Nat.le_succ source.length)
  rw [Text.placedLines_eq, List.filterMap_map, ← startsIn_all, ← hall, List.filterMap_append]
  simp only [Function.comp_def]
  rw [hopen, List.append_nil, ← hfindings, ← Nat.zero_max (TokenStream.size _)]
  rfl

/-- A block, a bracket over two lines in it, and behind the bracket a line join. -/
def tabbedSource : List Char := "if x:\n\ty = (1,\n \t2) + \\\n\t3\n".toList

/-- What a lexer makes of them. -/
def tabbedLexemes : List Lexeme :=
  [⟨.name, "if".toList, ⟨1, 0⟩, ⟨1, 2⟩⟩, ⟨.name, ['x'], ⟨1, 3⟩, ⟨1, 4⟩⟩,
    ⟨.op, [':'], ⟨1, 4⟩, ⟨1, 5⟩⟩, ⟨.newline, ['\n'], ⟨1, 5⟩, ⟨1, 6⟩⟩,
    ⟨.indent, ['\t'], ⟨2, 0⟩, ⟨2, 1⟩⟩, ⟨.name, ['y'], ⟨2, 1⟩, ⟨2, 2⟩⟩,
    ⟨.op, ['='], ⟨2, 3⟩, ⟨2, 4⟩⟩, ⟨.op, ['('], ⟨2, 5⟩, ⟨2, 6⟩⟩, ⟨.number, ['1'], ⟨2, 6⟩, ⟨2, 7⟩⟩,
    ⟨.op, [','], ⟨2, 7⟩, ⟨2, 8⟩⟩, ⟨.nl, ['\n'], ⟨2, 8⟩, ⟨2, 9⟩⟩,
    ⟨.number, ['2'], ⟨3, 2⟩, ⟨3, 3⟩⟩, ⟨.op, [')'], ⟨3, 3⟩, ⟨3, 4⟩⟩, ⟨.op, ['+'], ⟨3, 5⟩, ⟨3, 6⟩⟩,
    ⟨.number, ['3'], ⟨4, 1⟩, ⟨4, 2⟩⟩, ⟨.newline, ['\n'], ⟨4, 2⟩, ⟨4, 3⟩⟩,
    ⟨.dedent, [], ⟨5, 0⟩, ⟨5, 0⟩⟩, ⟨.endMarker, [], ⟨5, 0⟩, ⟨5, 0⟩⟩]

/-- Tabs are found in the indentation of the block and inside the bracket, and not behind
    the line join. -/
theorem tabIndentation_by_line_block :
    '\r' ∉ tabbedSource ∧ (tabbedSource = [] ∨ tabbedSource.getLast? = some '\n') ∧
      LaidOut tabbedSource tabbedLexemes ∧
      ∃ s, tokenize .here tabbedSource ⟨tabbedLexemes, none⟩ = .ok s ∧
        ((TabIndentation.rule .error).run s).findings.map (fun f => (f.line, f.column)) =
          [(2, 1), (3, 2)] := by
  have hreturn : '\r' ∉ tabbedSource := by decide
  have hend : tabbedSource = [] ∨ tabbedSource.getLast? = some '\n' := by decide
  have hlaid : LaidOut tabbedSource tabbedLexemes := by decide +kernel
  have hlines : ((Text.placedLines tabbedSource).filterMap
      (TabIndentation.ofLine tabbedSource tabbedLexemes .error)).map
        (fun f => (f.line, f.column)) = [(2, 1), (3, 2)] := by decide +kernel
  rcases tabIndentation_by_line .here tabbedSource tabbedLexemes hreturn hend hlaid .error 0 with
    ⟨s, hs, hrun⟩
  refine ⟨hreturn, hend, hlaid, s, hs, ?_⟩
  exact (congrArg (fun r => r.findings.map fun f => (f.line, f.column)) hrun).trans hlines

/-- A statement that is joined over two lines, the second one indented by a tab. -/
def joinedSum : List Char := "x = 1 + \\\n\t2\n".toList

/-- What a lexer makes of it. -/
def joinedSumLexemes : List Lexeme :=
  [⟨.name, ['x'], ⟨1, 0⟩, ⟨1, 1⟩⟩, ⟨.op, ['='], ⟨1, 2⟩, ⟨1, 3⟩⟩, ⟨.number, ['1'], ⟨1, 4⟩, ⟨1, 5⟩⟩,
    ⟨.op, ['+'], ⟨1, 6⟩, ⟨1, 7⟩⟩, ⟨.number, ['2'], ⟨2, 1⟩, ⟨2, 2⟩⟩,
    ⟨.newline, ['\n'], ⟨2, 2⟩, ⟨2, 3⟩⟩, ⟨.endMarker, [], ⟨3, 0⟩, ⟨3, 0⟩⟩]

/-- A tab behind a line join is not found. The line is not blank and begins in no lexeme,
    its first character is a tab, and all lexemes are as they should be. -/
theorem tabIndentation_misses_joined :
    '\r' ∉ joinedSum ∧ joinedSum.getLast? = some '\n' ∧ LaidOut joinedSum joinedSumLexemes ∧
      (∀ l ∈ joinedSumLexemes, l.first joinedSum < l.last joinedSum → l.isTerminator = false →
        ∃ c ∈ joinedSum[l.last joinedSum - 1]?, Text.isBlank c = false) ∧
      (10, ⟨2, ['\t', '2'], true⟩) ∈ Text.placedLines joinedSum ∧
      (∀ l ∈ joinedSumLexemes, ¬ (l.first joinedSum < 10 ∧ 10 < l.last joinedSum)) ∧
      ∃ s, tokenize .here joinedSum ⟨joinedSumLexemes, none⟩ = .ok s ∧
        ((TabIndentation.rule .error).run s).findings = [] :=
  ⟨by decide, by decide, by decide +kernel, by decide +kernel, by decide +kernel,
    by decide +kernel, _, tokenize_ok .here joinedSum joinedSumLexemes, by decide +kernel⟩

end TokenLint
