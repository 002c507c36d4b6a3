import Mathlib.Data.List.Basic
import TokenLint.Proofs.Rule.Rising
import TokenLint.Proofs.Token.Tiling
import TokenLint.Rule.BlankLines
import TokenLint.Rule.LineLength
import TokenLint.Rule.Whitespace

/-!
# Places of Findings

What the rules that come with the program report is there in the source. Each
finding of a rule is on a line of its own, the lines rise, and the place that
it names is a tab, a blank, a character of a line that is too long, or the
start of a line that is ended. None of this needs anything of the lexer. Its
kinds and the cuts between tokens are what they are; all that counts is that a
token stands where the text before it ends.

Each rule is followed with the text that it has read so far. For three of the
rules the bound of their findings is the line that is open where that text
ends. The rule against tabs reports a line as soon as there is a tab in front,
when the line is still open, and so its bound is one higher on a line that has
begun. The rule against blanks at the end of a line carries a place from token
to token, and `PendingAt` is what holds of that place.

## Main definitions

* `TabIndentation.bound`: The first line on which tabs can still be found.
* `TrailingWhitespace.PendingAt`: A blank on the last line of a text.

## Theorems

* `TabIndentation.rising_finding?`, `BlankLines.rising_finding?`,
  `LineLength.rising_findings`, `TrailingWhitespace.rising_findingsFrom`: The
  findings of each rule.
* `rules_findings_anchored`: The findings of the rules in a source.
-/

namespace TokenLint

namespace TabIndentation

/-- The first line on which tabs can still be found after a text. As soon as
    there is something on the last line of the text, it is the next one. -/
def bound (before : List Char) : Int :=
  Text.openLine before + if Text.lastLine before = [] then 0 else 1

theorem bound_le (before text : List Char) : bound before ≤ bound (before ++ text) := by
  by_cases hbreak : '\n' ∈ text
  · have hpos := Text.breakCount_pos text hbreak
    rw [bound, bound, Text.openLine_append]
    split <;> split <;> omega
  · have hlast := Text.lastLine_append_of_not_mem before text hbreak
    rw [bound, bound, Text.openLine_append_of_not_mem before text hbreak]
    by_cases hempty : Text.lastLine before = []
    · rw [if_pos hempty]
      split <;> omega
    · have hempty' : Text.lastLine (before ++ text) ≠ [] := by
        rw [hlast]
        exact List.append_ne_nil_of_left_ne_nil hempty text
      exact Int.le_of_eq (by rw [if_neg hempty, if_neg hempty'])

/-- A token either holds no indentation, or it leaves a line open that began
    with the token and has nothing but this indentation so far. -/
theorem indentation_eq {source before : List Char} {t : Token} (h : t.StandsAt source before) :
    (indentation t).1 = [] ∨
      (indentation t).1 = Text.lastLine (before ++ t.text) ∧
        (indentation t).2 = Text.openLine (before ++ t.text) ∧
        bound before ≤ (indentation t).2 := by
  have hline := h.line_add_breakCount
  by_cases hbreak : t.hasBreak = true
  · have hmem := t.hasBreak_iff.mp hbreak
    have hpos := Text.breakCount_pos t.text hmem
    have hindentation : indentation t = (t.trailingBlanks, t.line + t.breakCount) := if_pos hbreak
    right
    refine ⟨?_, ?_, ?_⟩
    · rw [hindentation, Token.trailingBlanks, if_pos hbreak,
        Text.lastLine_append_of_mem before t.text hmem]
    · rw [hindentation, hline]
    · rw [hindentation, hline, bound, Text.openLine_append]
      split <;> omega
  · have hmem := mt t.hasBreak_iff.mpr hbreak
    by_cases hcolumn : t.column = 1
    · have hempty := h.column_eq_one.mp hcolumn
      have hindentation : indentation t = (t.text, t.line) := by
        rw [indentation, if_neg hbreak, if_pos hcolumn]
      rw [h.line, ← Text.openLine_append_of_not_mem before t.text hmem] at hindentation
      right
      refine ⟨?_, ?_, ?_⟩
      · rw [hindentation, Text.lastLine_append_of_not_mem before t.text hmem, hempty,
          List.nil_append]
      · rw [hindentation]
      · refine Int.le_of_eq ?_
        rw [hindentation, bound, if_pos hempty, Text.openLine_append_of_not_mem before t.text hmem,
          Int.add_zero]
    · left
      rw [indentation, if_neg hbreak, if_neg hcolumn]

/-- What is reported is the first tab of the indentation. -/
theorem exists_of_finding? {severity : Severity} {t : Token} {f : Finding}
    (h : finding? severity t = some f) : ∃ place : Nat, (indentation t).1[place]? = some '\t' ∧
      f.line = (indentation t).2 ∧ f.column = place + 1 := by
  rw [finding?] at h
  rcases hindentation : indentation t with ⟨blanks, line⟩
  rw [hindentation] at h
  split at h
  · rcases Option.map_eq_some_iff.mp h with ⟨place, hplace, rfl⟩
    rcases List.findIdx?_eq_some_iff_getElem.mp hplace with ⟨hlt, htab, _⟩
    refine ⟨place, ?_, rfl, rfl⟩
    rw [List.getElem?_eq_getElem hlt, beq_iff_eq.mp htab]
  · simp only [reduceCtorEq] at h

theorem rising_finding? {source before : List Char} {t : Token} (severity : Severity)
    (h : t.StandsAt source before) : Rising (·.IsAt source (· = '\t')) (bound before)
      (bound (before ++ t.text)) (finding? severity t).toList := by
  refine .toList (bound_le before t.text) fun f hf => ?_
  rcases exists_of_finding? hf with ⟨place, htab, hline, hcolumn⟩
  rcases indentation_eq h with hnone | ⟨hblanks, hopen, hbound⟩
  · rw [hnone] at htab
    simp only [List.getElem?_nil, reduceCtorEq] at htab
  · rw [hblanks] at htab
    have hline' := hline.trans hopen
    -- The tab is on the last line, and so the bound has passed that line.
    have hempty : Text.lastLine (before ++ t.text) ≠ [] := by
      intro hnil
      rw [hnil] at htab
      simp only [List.getElem?_nil, reduceCtorEq] at htab
    have hnext : bound (before ++ t.text) = Text.openLine (before ++ t.text) + 1 := by
      rw [bound, if_neg hempty]
    exact ⟨by omega, by omega, Finding.isAt_of_prefix h.text hline' place hcolumn _ htab rfl⟩

end TabIndentation

namespace BlankLines

/-- What is reported is the line behind those that may be blank. -/
theorem exists_of_finding? {severity : Severity} {limit : Int} {t : Token} {f : Finding}
    (h : finding? severity limit t = some f) : ∃ first : Int, (first = t.line ∨
      first = t.line + 1) ∧ first + limit < t.line + t.breakCount ∧ f.line = first + limit ∧
        f.column = 1 := by
  rw [finding?] at h
  split at h
  · by_cases hcolumn : t.column = 1
    · simp only [hcolumn, if_true] at h
      split at h
      · rw [← Option.some.inj h]
        exact ⟨t.line, Or.inl rfl, by omega, rfl, rfl⟩
      · simp only [reduceCtorEq] at h
    · simp only [hcolumn, if_false] at h
      split at h
      · rw [← Option.some.inj h]
        exact ⟨t.line + 1, Or.inr rfl, by omega, rfl, rfl⟩
      · simp only [reduceCtorEq] at h
  · simp only [reduceCtorEq] at h

theorem rising_finding? {source before : List Char} {t : Token} (severity : Severity)
    {limit : Int} (hlimit : 0 ≤ limit) (h : t.StandsAt source before) :
    Rising (·.StartsEndedLine source) (Text.openLine before) (Text.openLine (before ++ t.text))
      (finding? severity limit t).toList := by
  have hline := h.line
  have hopen := h.line_add_breakCount
  have hpos := Text.openLine_pos before
  have hcount := h.text.sublist.count_le '\n'
  refine .toList (by omega) fun f hf => ?_
  rcases exists_of_finding? hf with ⟨first, hfirst, hended, hrow, hcolumn⟩
  refine ⟨by omega, by omega, (f.line - 1).toNat, by omega, hcolumn, ?_⟩
  -- The line feed that ends the line is in the token, and so in the source.
  rw [← Text.breakCount, ← Text.breakCount] at hcount
  rw [Text.openLine] at hline hopen
  rw [Text.length_lines]
  omega

end BlankLines

namespace LineLength

variable {source before : List Char} (severity : Severity) {limit : Int}

theorem width_le (piece : List Char) : width piece ≤ piece.length := by
  have hle := (List.dropWhile_sublist (· == '\r') (l := piece.reverse)).length_le
  rw [List.length_reverse] at hle
  rw [width, Text.dropTrailing, List.length_reverse]
  exact hle

/-- A line that is too long has the character that is reported. -/
theorem rising_finding? (hlimit : 0 ≤ limit) (hbefore : before <+: source) {width : Int}
    (hwidth : width ≤ (Text.lastLine before).length) :
    Rising (·.IsAt source (· ≠ '\n')) (Text.openLine before) (Text.openLine before + 1)
      (finding? severity limit (Text.openLine before, width)).toList := by
  refine .toList (by omega) fun f hf => ?_
  rw [finding?] at hf
  split at hf
  · rename_i hover
    have hlt : limit.toNat < (Text.lastLine before).length := by
      simp only [] at hover
      omega
    have hplain : (Text.lastLine before)[limit.toNat] ≠ '\n' := fun hc =>
      Text.newline_not_mem_lastLine before (hc ▸ List.getElem_mem hlt)
    rw [← Option.some.inj hf]
    refine ⟨Int.le_refl _, by simp only []; omega, ?_⟩
    exact Finding.isAt_of_prefix hbefore rfl limit.toNat (by simp only []; omega) _
      (List.getElem?_eq_getElem hlt) hplain
  · simp only [reduceCtorEq] at hf

/-- The line that a piece ends, and those that end behind it. -/
theorem rising_cons (hlimit : 0 ≤ limit) {piece : List Char} {width high : Int}
    {lines : List (Int × Int)} (hbefore : before ++ piece ++ ['\n'] <+: source)
    (hpiece : '\n' ∉ piece) (hwidth : width ≤ (Text.lastLine (before ++ piece)).length)
    (hrest : Rising (·.IsAt source (· ≠ '\n')) (Text.openLine (before ++ piece ++ ['\n'])) high
      (lines.filterMap (finding? severity limit))) :
    Rising (·.IsAt source (· ≠ '\n')) (Text.openLine before) high
      (((Text.openLine before, width) :: lines).filterMap (finding? severity limit)) := by
  have hfirst := rising_finding? severity hlimit ((List.prefix_append _ _).trans hbefore) hwidth
  rw [Text.openLine_append_of_not_mem before piece hpiece] at hfirst
  rw [Text.openLine_append_line before piece hpiece] at hrest
  rw [filterMap_cons_toList]
  exact hfirst.append hrest

/-- The lines that are whole inside a token. -/
theorem rising_wholeWidths (hlimit : 0 ≤ limit) (pieces : List (List Char)) :
    ∀ before : List Char, Text.lastLine before = [] → (∀ p ∈ pieces, '\n' ∉ p) →
      before ++ ['\n'].intercalate pieces <+: source →
        Rising (·.IsAt source (· ≠ '\n')) (Text.openLine before)
          (Text.openLine (before ++ ['\n'].intercalate pieces))
          ((wholeWidths (Text.openLine before) pieces).filterMap (finding? severity limit)) := by
  induction pieces with
  | nil =>
      intro before _ _ _
      exact .nil (Text.openLine_le before _)
  | cons piece rest ih =>
      intro before hempty hpieces hbefore
      rcases List.forall_mem_cons.mp hpieces with ⟨hpiece, hothers⟩
      by_cases hrest : rest = []
      · rw [hrest]
        exact .nil (Text.openLine_le before _)
      · -- With the line feed behind the piece, the text that was read ends a line again.
        rw [Text.append_intercalate_cons before piece hrest] at hbefore ⊢
        have hmore := ih (before ++ piece ++ ['\n']) (Text.lastLine_append_singleton _) hothers
          hbefore
        have hwidth : (width piece : Int) ≤ (Text.lastLine (before ++ piece)).length := by
          rw [Text.lastLine_append_of_not_mem before piece hpiece, hempty, List.nil_append]
          exact Int.ofNat_le.mpr (width_le piece)
        rw [wholeWidths_cons _ _ _ hrest, ← Text.openLine_append_line before piece hpiece]
        exact rising_cons severity hlimit ((List.prefix_append _ _).trans hbefore) hpiece hwidth
          hmore

/-- The lines that end inside a token. The first of them may have begun before. -/
theorem rising_endedWidths {t : Token} (hlimit : 0 ≤ limit) (h : t.StandsAt source before) :
    Rising (·.IsAt source (· ≠ '\n')) (Text.openLine before) (Text.openLine (before ++ t.text))
      ((endedWidths t).filterMap (finding? severity limit)) := by
  have htext := Text.intercalate_lines t.text
  have hpieces : ∀ p ∈ Text.lines t.text, '\n' ∉ p := fun _ =>
    Text.newline_not_mem_of_mem_lines
  cases hlines : Text.lines t.text with
  | nil => exact absurd hlines (Text.lines_ne_nil t.text)
  | cons piece rest =>
      rw [hlines] at htext hpieces
      by_cases hrest : rest = []
      · rw [endedWidths, hlines, hrest]
        exact .nil (Text.openLine_le before _)
      · have hbefore := h.text
        rcases List.forall_mem_cons.mp hpieces with ⟨hpiece, hothers⟩
        rw [← htext, Text.append_intercalate_cons before piece hrest] at hbefore
        have hmore := rising_wholeWidths severity hlimit rest (before ++ piece ++ ['\n'])
          (Text.lastLine_append_singleton _) hothers hbefore
        -- What the column counts is the part of the line that is in front of the token.
        have hwidth : t.column - 1 + width piece ≤ (Text.lastLine (before ++ piece)).length := by
          have hle := width_le piece
          rw [Text.lastLine_append_of_not_mem before piece hpiece, List.length_append, h.column]
          omega
        rw [endedWidths_of_lines t piece rest hlines hrest, ← htext,
          Text.append_intercalate_cons before piece hrest, h.line,
          ← Text.openLine_append_line before piece hpiece]
        exact rising_cons severity hlimit ((List.prefix_append _ _).trans hbefore) hpiece hwidth
          hmore

/-- The line that no line feed ends is the last one of the source. -/
theorem openWidth?_eq {t : Token} (h : t.StandsAt source before) :
    openWidth? t = none ∨ openWidth? t = some (Text.openLine (before ++ t.text),
      ((Text.lastLine (before ++ t.text)).length : Int)) := by
  have hline := h.line_add_breakCount
  by_cases hended : t.text.getLast? = some '\n'
  · left
    rw [openWidth?, if_pos hended]
  · right
    by_cases hbreak : t.hasBreak = true
    · rw [openWidth?, if_neg hended, if_pos hbreak, hline,
        Text.lastLine_append_of_mem before t.text (t.hasBreak_iff.mp hbreak)]
    · have hmem := mt t.hasBreak_iff.mpr hbreak
      have hwidth : t.column - 1 + t.length = (Text.lastLine (before ++ t.text)).length := by
        rw [Text.lastLine_append_of_not_mem before t.text hmem, List.length_append, h.column,
          Token.length]
        omega
      rw [openWidth?, if_neg hended, if_neg hbreak, hline, hwidth]

theorem rising_findings (hlimit : 0 ≤ limit) {tokens : List Token} (hplaced : Placed [] tokens) :
    Rising (·.IsAt (tokens.flatMap (·.text)) (· ≠ '\n')) (Text.openLine [])
      (Text.openLine (tokens.flatMap (·.text)) + 1) (findings severity limit tokens) := by
  have hended := rising_flatMap Text.openLine _ tokens []
    (fun _ _ h => rising_endedWidths severity hlimit h) hplaced
  rw [findings, List.filterMap_append, List.filterMap_flatMap]
  refine hended.append ?_
  cases hlast : tokens.getLast? with
  | none => exact .nil (by rw [List.nil_append]; omega)
  | some t =>
      rcases List.getLast?_eq_some_iff.mp hlast with ⟨front, rfl⟩
      have hstands := hplaced.of_append.standsAt
      have htext : [] ++ front.flatMap (·.text) ++ t.text = (front ++ [t]).flatMap (·.text) := by
        rw [List.flatMap_append, List.flatMap_singleton, List.nil_append]
      -- The last token leaves the line open that is the last of the source.
      rcases openWidth?_eq hstands with hnone | hsome
      · rw [Option.bind_some, hnone]
        exact .nil (by rw [List.nil_append]; omega)
      · rw [Option.bind_some, hsome, htext]
        exact rising_finding? severity hlimit (List.prefix_refl _) (Int.le_refl _)

end LineLength

namespace TrailingWhitespace

variable {source before : List Char} (severity : Severity)

/-- What is pending is a blank on the last line of a text. -/
def PendingAt (before : List Char) (pending : Pending) : Prop :=
  ∀ line column, pending = some (line, column) → line = Text.openLine before ∧
    ∃ (place : Nat) (c : Char), column = place + 1 ∧ (Text.lastLine before)[place]? = some c ∧
      (c = ' ' ∨ c = '\t')

theorem pendingAt_none (before : List Char) : PendingAt before none :=
  fun _ _ h => nomatch h

/-- More of the line leaves the blank where it is. -/
theorem PendingAt.append {pending : Pending} (h : PendingAt before pending) {piece : List Char}
    (hpiece : '\n' ∉ piece) : PendingAt (before ++ piece) pending := by
  intro line column hpending
  rcases h line column hpending with ⟨hline, place, c, hcolumn, hchar, hblank⟩
  refine ⟨?_, place, c, hcolumn, ?_, hblank⟩
  · rw [Text.openLine_append_of_not_mem before piece hpiece, hline]
  · rw [Text.lastLine_append_of_not_mem before piece hpiece,
      List.getElem?_append_left (List.getElem?_eq_some_iff.mp hchar).1, hchar]

/-- A piece, cut in front of the blanks at its end. -/
theorem exists_append_blanks (piece : List Char) : ∃ front blanks, piece = front ++ blanks ∧
    blanks.length = blankTail piece ∧ ∀ c ∈ blanks, c = ' ' ∨ c = '\t' := by
  refine ⟨(piece.reverse.dropWhile fun c => c == ' ' || c == '\t').reverse,
    (piece.reverse.takeWhile fun c => c == ' ' || c == '\t').reverse, ?_, ?_, ?_⟩
  · rw [← List.reverse_append, List.takeWhile_append_dropWhile, List.reverse_reverse]
  · rw [List.length_reverse, blankTail]
  · intro c hc
    have hblank := List.all_eq_true.mp List.all_takeWhile c (List.mem_reverse.mp hc)
    rw [Bool.or_eq_true, beq_iff_eq, beq_iff_eq] at hblank
    exact hblank

theorem exists_blank_of_blankTail (piece : List Char) (h : blankTail piece ≠ 0) :
    ∃ c, piece[piece.length - blankTail piece]? = some c ∧ (c = ' ' ∨ c = '\t') := by
  rcases exists_append_blanks piece with ⟨front, blanks, hpiece, hlength, hblanks⟩
  have hlt : 0 < blanks.length := by omega
  have hplace : piece.length - blankTail piece = front.length := by
    have hwhole := congrArg List.length hpiece
    rw [List.length_append] at hwhole
    omega
  refine ⟨blanks[0], ?_, hblanks _ (List.getElem_mem hlt)⟩
  rw [hplace, hpiece, List.getElem?_append_right (Nat.le_refl _), Nat.sub_self,
    List.getElem?_eq_getElem hlt]

theorem pendingAt_advance {pending : Pending} (h : PendingAt before pending) {piece : List Char}
    (hpiece : '\n' ∉ piece) : PendingAt (before ++ piece)
      (advance pending (Text.openLine before) (1 + (Text.lastLine before).length) piece) := by
  rw [advance]
  by_cases hempty : piece.isEmpty = true
  · rw [if_pos hempty]
    exact h.append hpiece
  · rw [if_neg hempty]
    by_cases htail : blankTail piece = 0
    · rw [if_pos htail]
      exact pendingAt_none _
    · rw [if_neg htail]
      split
      · -- The run of blanks begins in this piece.
        intro line column hpending
        rw [Option.some.injEq, Prod.mk.injEq] at hpending
        rcases exists_blank_of_blankTail piece htail with ⟨c, hchar, hblank⟩
        refine ⟨?_, (Text.lastLine before).length + (piece.length - blankTail piece), c, ?_, ?_,
          hblank⟩
        · rw [Text.openLine_append_of_not_mem before piece hpiece, hpending.1]
        · omega
        · rw [Text.lastLine_append_of_not_mem before piece hpiece,
            List.getElem?_append_right (Nat.le_add_right _ _), Nat.add_sub_cancel_left, hchar]
      · exact h.append hpiece

/-- What is pending when its line ends is reported. -/
theorem rising_finding? {pending : Pending} (h : PendingAt before pending)
    (hbefore : before <+: source) :
    Rising (·.IsAt source fun c => c = ' ' ∨ c = '\t') (Text.openLine before)
      (Text.openLine before + 1) (finding? severity pending).toList := by
  refine .toList (by omega) fun f hf => ?_
  rcases Option.map_eq_some_iff.mp hf with ⟨⟨line, column⟩, hpending, rfl⟩
  rcases h line column hpending with ⟨hline, place, c, hcolumn, hchar, hblank⟩
  refine ⟨by simp only []; omega, by simp only []; omega, ?_⟩
  exact Finding.isAt_of_prefix hbefore hline place hcolumn c hchar hblank

theorem dropReturn_isPrefix (piece : List Char) : Text.dropReturn piece <+: piece := by
  rw [Text.dropReturn]
  split
  · exact List.dropLast_prefix piece
  · exact List.prefix_refl piece

theorem newline_not_mem_dropReturn {piece : List Char} (h : '\n' ∉ piece) :
    '\n' ∉ Text.dropReturn piece :=
  fun hmem => h ((dropReturn_isPrefix piece).subset hmem)

/-- The pieces of a token. Those that are not the last end their lines. -/
theorem rising_pieces (pieces : List (List Char)) : ∀ (before : List Char) (pending : Pending),
    pieces ≠ [] → (∀ p ∈ pieces, '\n' ∉ p) → before ++ ['\n'].intercalate pieces <+: source →
      PendingAt before pending →
        Rising (·.IsAt source fun c => c = ' ' ∨ c = '\t') (Text.openLine before)
            (Text.openLine (before ++ ['\n'].intercalate pieces))
            (TrailingWhitespace.pieces severity pending (Text.openLine before)
              (1 + (Text.lastLine before).length) pieces).1 ∧
          PendingAt (before ++ ['\n'].intercalate pieces)
            (TrailingWhitespace.pieces severity pending (Text.openLine before)
              (1 + (Text.lastLine before).length) pieces).2 := by
  induction pieces with
  | nil =>
      intro before pending h
      exact absurd rfl h
  | cons piece rest ih =>
      intro before pending _ hpieces hbefore hpending
      rcases List.forall_mem_cons.mp hpieces with ⟨hpiece, hothers⟩
      by_cases hrest : rest = []
      · rw [hrest, List.intercalate_singleton]
        exact ⟨.nil (Text.openLine_le before piece), pendingAt_advance hpending hpiece⟩
      · rw [Text.append_intercalate_cons before piece hrest] at hbefore ⊢
        -- The line is judged without its carriage return, by what stands in front of that.
        have hshort := newline_not_mem_dropReturn hpiece
        have hended : before ++ Text.dropReturn piece <+: source :=
          ((List.prefix_append_right_inj before).mpr (dropReturn_isPrefix piece)).trans
            ((List.prefix_append _ _).trans ((List.prefix_append _ _).trans hbefore))
        have hfirst := rising_finding? severity (pendingAt_advance hpending hshort) hended
        have hnext := ih (before ++ piece ++ ['\n']) none hrest hothers hbefore (pendingAt_none _)
        rw [Text.openLine_append_of_not_mem before _ hshort] at hfirst
        rw [Text.openLine_append_line before piece hpiece, Text.lastLine_append_singleton] at hnext
        rw [pieces_cons _ _ _ _ _ _ hrest]
        exact ⟨hfirst.append hnext.1, hnext.2⟩

theorem rising_findingsFrom (tokens : List Token) : ∀ (before : List Char) (pending : Pending),
    Placed before tokens → PendingAt before pending →
      Rising (·.IsAt (before ++ tokens.flatMap (·.text)) fun c => c = ' ' ∨ c = '\t')
        (Text.openLine before) (Text.openLine (before ++ tokens.flatMap (·.text)))
        (findingsFrom severity pending tokens) := by
  induction tokens with
  | nil =>
      intro before pending _ _
      exact .nil (Text.openLine_le before _)
  | cons t tokens ih =>
      intro before pending hplaced hpending
      have hstands := hplaced.standsAt
      have htext := Text.intercalate_lines t.text
      have hbefore := hstands.text
      rw [← htext] at hbefore
      rcases rising_pieces severity (Text.lines t.text) before pending (Text.lines_ne_nil t.text)
        (fun _ => Text.newline_not_mem_of_mem_lines) hbefore hpending with ⟨hfound, hleft⟩
      rw [htext, ← hstands.line, ← hstands.column] at hfound hleft
      have hrest := ih (before ++ t.text) _ hplaced.2.2 hleft
      rw [List.append_assoc, ← List.flatMap_cons] at hrest
      rw [findingsFrom, ← hstands.line]
      exact hfound.append hrest

end TrailingWhitespace

/-- Whatever the lexer says, the findings of the rules that come with the
    program rise from line to line, and each of them is at a place that is
    there in the source and shows what the rule is against. -/
theorem rules_findings_anchored (path : Path) (source : List Char) (lexemes : List Lexeme) :
    ∃ s, tokenize path source ⟨lexemes, none⟩ = .ok s ∧ ∀ severity : Severity,
      Anchored (·.IsAt source fun c => c = ' ' ∨ c = '\t')
        ((TrailingWhitespace.rule severity).run s).findings ∧
      Anchored (·.IsAt source (· = '\t')) ((TabIndentation.rule severity).run s).findings ∧
      (∀ limit : Int, 1 ≤ limit → Anchored (·.IsAt source (· ≠ '\n'))
        ((LineLength.rule severity limit).run s).findings) ∧
      ∀ limit : Int, 0 ≤ limit → Anchored (·.StartsEndedLine source)
        ((BlankLines.rule severity limit).run s).findings := by
  have hplaced := tokenize_placed path source lexemes
  have htext := flatMap_text_tokensFrom path source lexemes
  refine ⟨_, tokenize_ok path source lexemes, fun severity => ⟨?_, ?_, ?_, ?_⟩⟩
  · have h := TrailingWhitespace.rising_findingsFrom severity _ [] none hplaced
      (TrailingWhitespace.pendingAt_none [])
    rw [List.nil_append, htext] at h
    exact h.anchored
  · have h := rising_flatMap TabIndentation.bound _ _ []
      (fun _ _ h => TabIndentation.rising_finding? severity h) hplaced
    rw [← List.filterMap_eq_flatMap_toList, List.nil_append, htext] at h
    exact h.anchored
  · intro limit hlimit
    have h := LineLength.rising_findings severity (Int.le_trans (by decide) hlimit) hplaced
    rw [htext] at h
    exact h.anchored
  · intro limit hlimit
    have h := rising_flatMap Text.openLine _ _ []
      (fun _ _ h => BlankLines.rising_finding? severity hlimit h) hplaced
    rw [← List.filterMap_eq_flatMap_toList, List.nil_append, htext] at h
    exact h.anchored

/-- What a lexer makes of a block when it leaves out the end of a line and the
    blank lines behind it. -/
def sparseBlock : List Lexeme :=
  [⟨.name, "if".toList, ⟨1, 0⟩, ⟨1, 2⟩⟩, ⟨.name, ['x'], ⟨1, 3⟩, ⟨1, 4⟩⟩,
    ⟨.op, [':'], ⟨1, 4⟩, ⟨1, 5⟩⟩, ⟨.newline, ['\n'], ⟨1, 5⟩, ⟨1, 6⟩⟩,
    ⟨.indent, ['\t'], ⟨2, 0⟩, ⟨2, 1⟩⟩, ⟨.name, ['y'], ⟨2, 1⟩, ⟨2, 2⟩⟩,
    ⟨.name, ['z'], ⟨6, 0⟩, ⟨6, 1⟩⟩]

theorem rules_findings_anchored_block :
    let source := "if x:\n\ty  \n\n\n\nz".toList
    ∃ s, tokenize .here source ⟨sparseBlock, none⟩ = .ok s ∧
      (((LineLength.rule .warning 3).run s).findings.map fun f => (f.line, f.column)) =
        [(1, 4), (2, 4)] ∧
      Anchored (·.IsAt source (· ≠ '\n')) ((LineLength.rule .warning 3).run s).findings ∧
      (((BlankLines.rule .warning 1).run s).findings.map fun f => (f.line, f.column)) = [(4, 1)] ∧
      Anchored (·.StartsEndedLine source) ((BlankLines.rule .warning 1).run s).findings := by
  rcases rules_findings_anchored .here "if x:\n\ty  \n\n\n\nz".toList sparseBlock with ⟨s, hs, h⟩
  rcases h .warning with ⟨_, _, hlength, hblank⟩
  have htokens := Except.ok.inj (hs.symm.trans (tokenize_ok .here _ sparseBlock))
  refine ⟨s, hs, ?_, hlength 3 (by decide), ?_, hblank 1 (by decide)⟩
  · rw [htokens]
    decide
  · rw [htokens]
    decide

end TokenLint
