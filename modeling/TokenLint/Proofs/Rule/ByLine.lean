import Mathlib.Data.List.Infix
import TokenLint.Proofs.Rule.Anchor
import TokenLint.Proofs.Text.Blank
import TokenLint.Proofs.Text.PhysicalLine

/-!
# Rules Line by Line

Two of the rules are about lines, and yet they read tokens. What they report is
nevertheless what somebody reports who looks at one line after the other and
knows nothing of tokens: `ofLine` judges a single line, and a rule reports what
that comes to over all lines of the source, in their order. So it does not
matter how the lexer cuts a line into tokens, or whether a line is part of a
string that runs over several.

The rule against blanks at the end of a line is a machine that carries a place
from token to token. `pendingAfter` says which place that is after any text, by
the line that is open at its end, and each step of the machine is one step of
`endedIn`. The rule against long lines carries nothing and counts on the column
of a token, which is the length of the open line in front of it.

Both look at carriage returns at the end of a line, and can only see those that
are in the token with the line feed. This is what the hypotheses on the tokens
are for, and they are all that is asked of the lexer.

## Main definitions

* `TrailingWhitespace.ofLine`, `LineLength.ofLine`: What the rules are about.
* `TrailingWhitespace.pendingAfter`: What is pending after a text.

## Theorems

* `TrailingWhitespace.advance_pendingAfter`: One more piece of a line.
* `TrailingWhitespace.pieces_eq`, `TrailingWhitespace.findingsFrom_eq`: What is
  reported of a token, and of all.
* `LineLength.endedWidths_eq`, `LineLength.openWidth?_eq_open`: The lines that
  end in a token, and the one that nothing ends.
* `trailingWhitespace_by_line`, `lineLength_by_line`: The rules line by line.
-/

namespace TokenLint

namespace Text

/-- A carriage return at the end of a piece is one at the end of its line. -/
theorem dropReturn_append_of_ne_nil (front : List Char) {piece : List Char} (h : piece ≠ []) :
    dropReturn (front ++ piece) = front ++ dropReturn piece := by
  rw [dropReturn, dropReturn, List.getLast?_append_of_ne_nil front h]
  split
  · exact List.dropLast_append_of_ne_nil h
  · rfl

/-- What a text ends with, its last line ends with. -/
theorem getLast?_of_getLast?_lastLine {before : List Char} {c : Char}
    (h : (lastLine before).getLast? = some c) : before.getLast? = some c := by
  have hne : lastLine before ≠ [] := by
    intro hnil
    rw [hnil] at h
    cases h
  by_cases hb : '\n' ∈ before
  · rcases exists_append_newline before hb with ⟨front, line, rfl, hline⟩
    rw [lastLine_append_newline front line hline] at h hne
    rw [List.getLast?_append_of_ne_nil front (List.cons_ne_nil _ line),
      List.getLast?_cons_of_ne_nil hne, h]
  · rwa [lastLine_of_not_mem before hb] at h

/-- A line that a piece ends, without the carriage return at its end. It may be the one that
    was there before the piece, if there is nothing in that. -/
theorem lastLine_dropReturn {before piece : List Char} (hpiece : '\n' ∉ piece)
    (hfull : before.getLast? = some '\r' → piece ≠ []) :
    lastLine (before ++ dropReturn piece) = dropReturn (lastLine (before ++ piece)) := by
  by_cases hempty : piece = []
  · have hlast : dropReturn (lastLine before) = lastLine before :=
      if_neg fun hreturn => hfull (getLast?_of_getLast?_lastLine hreturn) hempty
    rw [hempty, List.append_nil, hlast]
    exact congrArg lastLine (List.append_nil before)
  · have hshort := TrailingWhitespace.newline_not_mem_dropReturn hpiece
    rw [lastLine_append_of_not_mem before piece hpiece, lastLine_append_of_not_mem before _ hshort,
      dropReturn_append_of_ne_nil _ hempty]

end Text

namespace TrailingWhitespace

/-- Whether the rule is against a character at the end of a line. -/
def isTrailing (c : Char) : Bool := c == ' ' || c == '\t'

/-- A piece of a line without the blanks at its end. -/
def kept (piece : List Char) : List Char := Text.dropTrailing isTrailing piece

/-- What stands against a line that is ended: blanks at its end, one carriage return behind
    them aside. The place is that of the first of them. -/
def ofLine (severity : Severity) (line : Text.PhysicalLine) : Option Finding :=
  let content := Text.dropReturn line.content
  if line.isEnded ∧ (kept content).length < content.length then
    some ⟨severity, line.number, (kept content).length + 1, "Trailing whitespace"⟩
  else none

/-- What is pending after a text: the place where the blanks at the end of its last line
    begin. -/
def pendingAfter (before : List Char) : Pending :=
  if (kept (Text.lastLine before)).length < (Text.lastLine before).length then
    some (Text.openLine before, 1 + (kept (Text.lastLine before)).length)
  else none

theorem pendingAfter_newline (before : List Char) : pendingAfter (before ++ ['\n']) = none := by
  rw [pendingAfter, Text.lastLine_append_singleton]
  rfl

theorem length_kept (piece : List Char) :
    (kept piece).length + blankTail piece = piece.length := by
  have h := congrArg List.length
    (List.takeWhile_append_dropWhile (p := isTrailing) (l := piece.reverse))
  rw [List.length_append, List.length_reverse] at h
  have htail : blankTail piece = (piece.reverse.takeWhile isTrailing).length := rfl
  rw [kept, Text.dropTrailing, List.length_reverse, htail]
  omega

theorem kept_eq_nil_iff {piece : List Char} : kept piece = [] ↔ piece.all isTrailing = true :=
  Text.dropTrailing_eq_nil_iff isTrailing

theorem kept_append (front piece : List Char) :
    kept (front ++ piece) = if piece.all isTrailing then kept front else front ++ kept piece :=
  Text.dropTrailing_append isTrailing front piece

/-- A piece of blanks goes on with the run that is pending, or begins one. -/
theorem advance_of_all (pending : Pending) (line column : Int) {piece : List Char}
    (hpiece : piece ≠ []) (hall : piece.all isTrailing = true) :
    advance pending line column piece = pending.or (some (line, column)) := by
  have hlength := length_kept piece
  have hpos := List.length_pos_iff.mpr hpiece
  rw [kept_eq_nil_iff.mpr hall, List.length_nil] at hlength
  have hstart : piece.length - blankTail piece = 0 := by omega
  have htail : blankTail piece ≠ 0 := by omega
  rw [advance, if_neg (mt List.isEmpty_iff.mp hpiece), if_neg htail, hstart]
  cases pending with
  | none => rw [if_pos (.inr rfl)]; exact congrArg (fun c => some (line, c)) (Int.add_zero column)
  | some start => rfl

/-- In any other piece what was pending is over, and a run may begin. -/
theorem advance_of_not_all (pending : Pending) (line column : Int) {piece : List Char}
    (hall : ¬ piece.all isTrailing = true) :
    advance pending line column piece =
      if (kept piece).length < piece.length then
        some (line, column + (kept piece).length)
      else none := by
  have hlength := length_kept piece
  have hpos := List.length_pos_iff.mpr (mt kept_eq_nil_iff.mp hall)
  have hpiece : piece ≠ [] := fun hnil => hall (hnil ▸ rfl)
  have hstart : piece.length - blankTail piece = (kept piece).length := by
    omega
  rw [advance, if_neg (mt List.isEmpty_iff.mp hpiece), hstart]
  by_cases htail : blankTail piece = 0
  · rw [if_pos htail, if_neg (by omega)]
  · rw [if_neg htail, if_pos (.inl hpos), if_pos (by omega)]

/-- One more piece of the open line. -/
theorem advance_pendingAfter (before piece : List Char) (h : '\n' ∉ piece) :
    advance (pendingAfter before) (Text.openLine before) (1 + (Text.lastLine before).length) piece =
      pendingAfter (before ++ piece) := by
  have hbefore : (kept (Text.lastLine before)).length ≤ (Text.lastLine before).length :=
    (Text.dropTrailing_isPrefix isTrailing _).length_le
  have hafter : pendingAfter (before ++ piece) = _ := pendingAfter.eq_def (before ++ piece)
  rw [Text.lastLine_append_of_not_mem before piece h,
    Text.openLine_append_of_not_mem before piece h, kept_append,
    List.length_append] at hafter
  by_cases hpiece : piece = []
  · rw [hpiece, List.append_nil]
    rfl
  · have hpos := List.length_pos_iff.mpr hpiece
    by_cases hall : piece.all isTrailing = true
    · -- The run is the one that is pending, or all of the piece.
      rw [advance_of_all _ _ _ hpiece hall, hafter, if_pos hall, if_pos (by omega), pendingAfter]
      split
      · rfl
      · have hkept : (kept (Text.lastLine before)).length =
            (Text.lastLine before).length := by omega
        rw [hkept]
        rfl
    · rw [advance_of_not_all _ _ _ hall, hafter, if_neg hall, List.length_append]
      split
      · rw [if_pos (by omega), Int.natCast_add, Int.add_assoc]
      · rw [if_neg (by omega)]

variable (severity : Severity)

/-- A line that ends is reported for what is pending without its carriage return. -/
theorem finding?_pendingAfter {before line : List Char}
    (hlast : Text.lastLine before = Text.dropReturn line) :
    finding? severity (pendingAfter before) =
      ofLine severity ⟨Text.openLine before, line, true⟩ := by
  rw [pendingAfter, ofLine, hlast]
  simp only [true_and]
  split
  · rw [finding?, Option.map_some, Int.add_comm]
  · rfl

/-- The pieces of a token. Those that are not the last end their lines. -/
theorem pieces_eq (ps : List (List Char)) : ∀ before : List Char, ps ≠ [] →
    (∀ p ∈ ps, '\n' ∉ p) → (before.getLast? = some '\r' →
      Text.beginsWithFeed (['\n'].intercalate ps) = false) →
    pieces severity (pendingAfter before) (Text.openLine before)
        (1 + (Text.lastLine before).length) ps =
      ((Text.endedIn before (['\n'].intercalate ps)).filterMap (ofLine severity),
        pendingAfter (before ++ ['\n'].intercalate ps)) := by
  induction ps with
  | nil =>
      intro before h
      exact absurd rfl h
  | cons piece rest ih =>
      intro before _ hps huncut
      rcases List.forall_mem_cons.mp hps with ⟨hpiece, hothers⟩
      by_cases hrest : rest = []
      · rw [hrest, List.intercalate_singleton, Text.endedIn_of_not_mem piece hpiece,
          ← advance_pendingAfter before piece hpiece]
        rfl
      · rw [Text.intercalate_cons_newline piece hrest] at huncut ⊢
        have hfull : before.getLast? = some '\r' → piece ≠ [] := by
          rintro hreturn rfl
          rw [List.nil_append, List.singleton_append, Text.beginsWithFeed_newline] at huncut
          exact Bool.noConfusion (huncut hreturn)
        have hshort := newline_not_mem_dropReturn hpiece
        -- The line that the piece ends, and then the pieces behind it on a line of their own.
        have hended := finding?_pendingAfter severity (Text.lastLine_dropReturn hpiece hfull)
        rw [Text.openLine_append_of_not_mem before _ hshort,
          ← Text.openLine_append_of_not_mem before piece hpiece] at hended
        have hmore := ih (before ++ piece ++ ['\n']) hrest hothers fun hreturn => by
          rw [List.getLast?_concat] at hreturn
          exact absurd hreturn (by decide)
        rw [pendingAfter_newline, Text.openLine_append_line before piece hpiece,
          Text.lastLine_append_singleton] at hmore
        rw [pieces_cons _ _ _ _ _ _ hrest, advance_pendingAfter before _ hshort, hended]
        simp only [List.length_nil, Int.natCast_zero, Int.add_zero] at hmore
        rw [hmore, Text.endedIn_piece before piece _ hpiece, filterMap_cons_toList, Text.endedLine]
        simp only [← List.append_assoc]

/-- What is reported of tokens is what is to be said of the lines that end in them. -/
theorem findingsFrom_eq (tokens : List Token) : ∀ before : List Char, Placed before tokens →
    Uncut Text.beginsWithFeed before tokens →
      findingsFrom severity (pendingAfter before) tokens =
        (Text.endedIn before (tokens.flatMap (·.text))).filterMap (ofLine severity) := by
  induction tokens with
  | nil =>
      intro before _ _
      rfl
  | cons t tokens ih =>
      intro before hplaced huncut
      have hstands := hplaced.standsAt
      have htoken : before.getLast? = some '\r' →
          Text.beginsWithFeed (['\n'].intercalate (Text.lines t.text)) = false := by
        intro hreturn
        have hwhole := huncut.head hreturn
        rw [Text.intercalate_lines]
        -- A token without text has nothing to begin with.
        cases htext : t.text with
        | nil => rfl
        | cons c text => rw [htext] at hwhole; exact hwhole
      have hpieces := pieces_eq severity (Text.lines t.text) before (Text.lines_ne_nil t.text)
        (fun _ => Text.newline_not_mem_of_mem_lines) htoken
      rw [← hstands.line, ← hstands.column, Text.intercalate_lines] at hpieces
      rw [findingsFrom, hpieces, List.flatMap_cons, Text.endedIn_append, List.filterMap_append,
        ← ih (before ++ t.text) hplaced.2.2 huncut.tail]

end TrailingWhitespace

namespace LineLength

variable (severity : Severity) (limit : Int)

/-- The width of a line: the number of its characters, without the carriage returns at its
    end if it is ended. -/
def widthOf (line : Text.PhysicalLine) : Int :=
  if line.isEnded then (Text.dropTrailing (· == '\r') line.content).length
  else line.content.length

/-- What stands against a line: more characters than fit. The place is that of the first
    one that does not. -/
def ofLine (line : Text.PhysicalLine) : Option Finding :=
  if limit < widthOf line then
    some ⟨severity, line.number, limit + 1,
      s!"Line too long ({widthOf line} > {limit} characters)"⟩
  else none

/-- The lines that are whole inside a token. -/
theorem wholeWidths_eq (ps : List (List Char)) : ∀ before : List Char,
    Text.lastLine before = [] → (∀ p ∈ ps, '\n' ∉ p) →
      wholeWidths (Text.openLine before) ps =
        (Text.endedIn before (['\n'].intercalate ps)).map fun l => (l.number, widthOf l) := by
  induction ps with
  | nil =>
      intro before _ _
      rfl
  | cons piece rest ih =>
      intro before hempty hps
      rcases List.forall_mem_cons.mp hps with ⟨hpiece, hothers⟩
      by_cases hrest : rest = []
      · rw [hrest, List.intercalate_singleton, Text.endedIn_of_not_mem piece hpiece]
        rfl
      · have hmore := ih (before ++ piece ++ ['\n']) (Text.lastLine_append_singleton _) hothers
        rw [Text.openLine_append_line before piece hpiece] at hmore
        rw [wholeWidths_cons _ _ _ hrest, Text.intercalate_cons_newline piece hrest,
          Text.endedIn_piece before piece _ hpiece, List.map_cons, hmore, Text.endedLine,
          Text.openLine_append_of_not_mem before piece hpiece,
          Text.lastLine_append_of_not_mem before piece hpiece, hempty, List.nil_append]
        rfl

/-- The width of a line that a piece goes on with and ends. -/
theorem widthOf_append (n : Int) (front piece : List Char)
    (h : front.getLast? = some '\r' → ¬ piece.all (· == '\r') = true) :
    widthOf ⟨n, front ++ piece, true⟩ = front.length + width piece := by
  rw [widthOf, if_pos rfl, Text.dropTrailing_append, width]
  split
  · rename_i hall
    -- The piece has no width, and what is in front of it has nothing to drop.
    have hfront : Text.dropTrailing (· == '\r') front = front :=
      Text.dropTrailing_eq_self _ fun c hc hreturn => h (beq_iff_eq.mp hreturn ▸ hc) hall
    rw [hfront, (Text.dropTrailing_eq_nil_iff _).mpr hall]
    rfl
  · rw [List.length_append]
    omega

/-- The lines that end in a token. -/
theorem endedWidths_eq {source before : List Char} {t : Token} (h : t.StandsAt source before)
    (huncut : before.getLast? = some '\r' → Text.beginsWithEnding t.text = false) :
    endedWidths t = (Text.endedIn before t.text).map fun l => (l.number, widthOf l) := by
  have htext := Text.intercalate_lines t.text
  have hpieces : ∀ p ∈ Text.lines t.text, '\n' ∉ p := fun _ =>
    Text.newline_not_mem_of_mem_lines
  cases hlines : Text.lines t.text with
  | nil => exact absurd hlines (Text.lines_ne_nil t.text)
  | cons piece rest =>
      rw [hlines] at htext hpieces
      rcases List.forall_mem_cons.mp hpieces with ⟨hpiece, hothers⟩
      by_cases hrest : rest = []
      · rw [hrest, List.intercalate_singleton] at htext
        rw [endedWidths, hlines, hrest, ← htext, Text.endedIn_of_not_mem piece hpiece]
        rfl
      · rw [Text.intercalate_cons_newline piece hrest] at htext
        have hwhole := wholeWidths_eq rest (before ++ piece ++ ['\n'])
          (Text.lastLine_append_singleton _) hothers
        rw [Text.openLine_append_line before piece hpiece] at hwhole
        have hend : (Text.lastLine before).getLast? = some '\r' →
            ¬ piece.all (· == '\r') = true := by
          intro hreturn hall
          have hfalse := huncut (Text.getLast?_of_getLast?_lastLine hreturn)
          rw [← htext, Text.beginsWithEnding, List.append_assoc,
            List.dropWhile_append_of_pos (List.all_eq_true.mp hall), List.singleton_append,
            List.dropWhile_cons, if_neg (by decide), Text.beginsWithFeed_newline] at hfalse
          exact Bool.noConfusion hfalse
        rw [endedWidths_of_lines t piece rest hlines hrest, ← htext,
          Text.endedIn_piece before piece _ hpiece, List.map_cons, h.line, hwhole, Text.endedLine,
          Text.openLine_append_of_not_mem before piece hpiece,
          Text.lastLine_append_of_not_mem before piece hpiece, widthOf_append _ _ _ hend, h.column]
        congr 2
        omega

/-- The lines that end in tokens. -/
theorem flatMap_endedWidths (tokens : List Token) : ∀ before : List Char, Placed before tokens →
    Uncut Text.beginsWithEnding before tokens →
      tokens.flatMap endedWidths =
        (Text.endedIn before (tokens.flatMap (·.text))).map fun l => (l.number, widthOf l) := by
  induction tokens with
  | nil =>
      intro before _ _
      rfl
  | cons t tokens ih =>
      intro before hplaced huncut
      have htoken : before.getLast? = some '\r' → Text.beginsWithEnding t.text = false := by
        intro hreturn
        have hwhole := huncut.head hreturn
        rw [Text.beginsWithEnding, List.dropWhile_append] at hwhole
        -- A token of carriage returns only does not show what they are in front of.
        split at hwhole
        · rename_i hnone
          rw [Text.beginsWithEnding, List.isEmpty_iff.mp hnone]
          rfl
        · rename_i hsome
          rw [List.isEmpty_iff] at hsome
          rw [Text.beginsWithFeed, List.head?_append_of_ne_nil _ hsome] at hwhole
          exact hwhole
      rw [List.flatMap_cons, List.flatMap_cons, Text.endedIn_append, List.map_append,
        endedWidths_eq hplaced.standsAt htoken, ih (before ++ t.text) hplaced.2.2 huncut.tail]

/-- Nothing is too long for a line that is empty. -/
theorem ofLine_nil (hlimit : 0 ≤ limit) (n : Int) : ofLine severity limit ⟨n, [], false⟩ = none :=
  if_neg (Int.not_lt.mpr hlimit)

/-- The line that is open at the end of the last token. -/
theorem openWidth?_bind (hlimit : 0 ≤ limit) {source before : List Char} {t : Token}
    (h : t.StandsAt source before) :
    (openWidth? t).bind (finding? severity limit) = ofLine severity limit
      ⟨Text.openLine (before ++ t.text), Text.lastLine (before ++ t.text), false⟩ := by
  by_cases hended : t.text.getLast? = some '\n'
  · rcases List.getLast?_eq_some_iff.mp hended with ⟨text, htext⟩
    rw [openWidth?, if_pos hended, htext, ← List.append_assoc, Text.lastLine_append_singleton,
      ofLine_nil severity limit hlimit]
    rfl
  · have hsome : openWidth? t ≠ none := by
      rw [openWidth?, if_neg hended]
      split <;> exact Option.some_ne_none _
    rw [(openWidth?_eq h).resolve_left hsome]
    rfl

/-- What is reported of tokens is what is to be said of the lines. -/
theorem findings_eq (hlimit : 0 ≤ limit) {tokens : List Token} (hplaced : Placed [] tokens)
    (huncut : Uncut Text.beginsWithEnding [] tokens) :
    findings severity limit tokens =
      (Text.physicalLines (tokens.flatMap (·.text))).filterMap (ofLine severity limit) := by
  rw [findings, flatMap_endedWidths tokens [] hplaced huncut, List.filterMap_append,
    List.filterMap_map, Text.physicalLines_eq, List.filterMap_append]
  congr 1
  cases hlast : tokens.getLast? with
  | none =>
      rw [List.getLast?_eq_none_iff.mp hlast]
      exact (congrArg Option.toList (ofLine_nil severity limit hlimit 1)).symm
  | some t =>
      rcases List.getLast?_eq_some_iff.mp hlast with ⟨front, rfl⟩
      have hopen := openWidth?_bind severity limit hlimit hplaced.of_append.standsAt
      rw [List.nil_append, ← List.flatMap_singleton (fun t : Token => t.text) t,
        ← List.flatMap_append] at hopen
      rw [filterMap_cons_toList, ← hopen, Option.bind_some, List.filterMap_nil, List.append_nil]
      cases openWidth? t with
      | none => rfl
      | some line =>
          rw [Option.toList_some, filterMap_cons_toList, List.filterMap_nil, List.append_nil]
          rfl

end LineLength

/-- The tokens of a source that has some. -/
theorem tokens_of_tokenize {path : Path} {source : List Char} {lexing : Lexing} {s : TokenStream}
    (hs : tokenize path source lexing = .ok s) :
    Placed [] s.tokens ∧ s.tokens.flatMap (·.text) = source := by
  rcases lexing with ⟨lexemes, fault⟩
  cases fault with
  | none =>
      rw [tokenize_ok] at hs
      rw [← Except.ok.inj hs]
      exact ⟨tokenize_placed path source lexemes, flatMap_text_tokensFrom path source lexemes⟩
  | some fault =>
      rw [tokenize] at hs
      dsimp only at hs
      split at hs <;> cases hs

/-- The rule against blanks at the end of a line, line by line. However the source is cut
    into tokens, as long as no carriage return is cut off from the line feed behind it,
    the rule reads all tokens and reports what is to be said of each line that a line feed
    ends, and nothing else. -/
theorem trailingWhitespace_by_line (path : Path) (source : List Char) (lexing : Lexing)
    (s : TokenStream) (hs : tokenize path source lexing = .ok s) (hkeeps : s.KeepsPairs)
    (severity : Severity) (position : Nat) :
    (TrailingWhitespace.rule severity).run { s with position } =
      ⟨(Text.physicalLines source).filterMap (TrailingWhitespace.ofLine severity), s.size, none⟩ := by
  rcases tokens_of_tokenize hs with ⟨hplaced, htext⟩
  have hfindings := TrailingWhitespace.findingsFrom_eq severity s.tokens [] hplaced hkeeps
  -- The line that is open at the end is not ended, so nothing is said of it.
  have hopen : [⟨Text.openLine source, Text.lastLine source, false⟩].filterMap
      (TrailingWhitespace.ofLine severity) = [] := rfl
  rw [htext] at hfindings
  rw [Text.physicalLines_eq, List.filterMap_append, hopen, List.append_nil, ← hfindings,
    ← Nat.zero_max s.size]
  rfl

/-- A string over three lines, a comment with blanks at its end, and a line that is not
    ended. -/
def spreadSource : List Char := "s = \"\"\"a \n \t\n\"\"\" # c  \r\nt ".toList

/-- What a lexer makes of them. -/
def spreadLexing : Lexing where
  lexemes := [⟨.name, ['s'], ⟨1, 0⟩, ⟨1, 1⟩⟩, ⟨.op, ['='], ⟨1, 2⟩, ⟨1, 3⟩⟩,
    ⟨.string, "\"\"\"a \n \t\n\"\"\"".toList, ⟨1, 4⟩, ⟨3, 3⟩⟩,
    ⟨.comment, "# c  ".toList, ⟨3, 4⟩, ⟨3, 9⟩⟩, ⟨.newline, ['\r', '\n'], ⟨3, 9⟩, ⟨3, 11⟩⟩,
    ⟨.name, ['t'], ⟨4, 0⟩, ⟨4, 1⟩⟩]
  fault := none

/-- Blanks are found at the end of a line inside the string, on a line that has nothing
    else, and in front of a carriage return. -/
theorem trailingWhitespace_by_line_spread :
    ∃ s, tokenize .here spreadSource spreadLexing = .ok s ∧ s.KeepsPairs ∧
      ((TrailingWhitespace.rule .warning).run s).findings.map (fun f => (f.line, f.column)) =
        [(1, 9), (2, 1), (3, 8)] := by
  refine ⟨_, tokenize_ok .here spreadSource spreadLexing.lexemes, by decide, ?_⟩
  have hrun := trailingWhitespace_by_line .here spreadSource spreadLexing _
    (tokenize_ok .here spreadSource spreadLexing.lexemes) (by decide) .warning 0
  refine (congrArg (fun r => r.findings.map fun f => (f.line, f.column)) hrun).trans ?_
  decide

/-- The rule against long lines, line by line. However the source is cut into tokens, as
    long as the carriage returns at the end of a line are in the token with its line
    feed, the rule reads all tokens and reports each line that is longer than it may be,
    and nothing else. -/
theorem lineLength_by_line (path : Path) (source : List Char) (lexing : Lexing)
    (s : TokenStream) (hs : tokenize path source lexing = .ok s) (hkeeps : s.KeepsRuns)
    (severity : Severity) {limit : Int} (hlimit : 1 ≤ limit) (position : Nat) :
    (LineLength.rule severity limit).run { s with position } =
      ⟨(Text.physicalLines source).filterMap (LineLength.ofLine severity limit), s.size, none⟩ := by
  rcases tokens_of_tokenize hs with ⟨hplaced, htext⟩
  have hfindings := LineLength.findings_eq severity limit (Int.le_trans (by decide) hlimit)
    hplaced hkeeps
  rw [htext] at hfindings
  rw [← hfindings, ← Nat.zero_max s.size]
  rfl

/-- The carriage return has no width, and the line inside the string is a line. -/
theorem lineLength_by_line_spread :
    ∃ s, tokenize .here spreadSource spreadLexing = .ok s ∧ s.KeepsRuns ∧ 1 ≤ (8 : Int) ∧
      ((LineLength.rule .warning 8).run s).findings.map (fun f => (f.line, f.column)) =
        [(1, 9), (3, 9)] := by
  refine ⟨_, tokenize_ok .here spreadSource spreadLexing.lexemes, by decide, by decide, ?_⟩
  have hrun := lineLength_by_line .here spreadSource spreadLexing _
    (tokenize_ok .here spreadSource spreadLexing.lexemes) (by decide) .warning
    (by decide : 1 ≤ (8 : Int)) 0
  refine (congrArg (fun r => r.findings.map fun f => (f.line, f.column)) hrun).trans ?_
  decide

end TokenLint
